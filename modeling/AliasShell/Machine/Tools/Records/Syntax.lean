/-
Programs over records: rules that pair a pattern with what is to be done for the records that it
holds of, and functions.
-/
import AliasShell.Machine.Tools.Records.Value

namespace AliasShell.Tools.Records

/-! ### Expressions -/

/-- The operators between numbers. -/
inductive Operator where
  | add
  | sub
  | mul
  | div
  | rem
  | pow
  deriving Repr, DecidableEq

/-- How two values are compared. -/
inductive Comparison where
  | less
  | atMost
  | same
  | different
  | atLeast
  | greater
  deriving Repr, DecidableEq

namespace Comparison

/-- The order is one of those that are asked for. -/
def holds : Comparison → Ordering → Bool
  | .less, o => o == .lt
  | .atMost, o => o != .gt
  | .same, o => o == .eq
  | .different, o => o != .eq
  | .atLeast, o => o != .lt
  | .greater, o => o == .gt

end Comparison

/-- What has a name. -/
inductive Var where
  | global (name : Text)
  /-- a parameter of the function, by its place -/
  | param (n : Nat)
  deriving Repr, DecidableEq

/-- An expression. -/
inductive Expr where
  | number (x : Float)
  | text (t : Text)
  /-- a regular expression, which alone is held against the record -/
  | regex (t : Text)
  | var (v : Var)
  | field (e : Expr)
  | element (v : Var) (key : List Expr)
  | assign (place : Expr) (op : Option Operator) (e : Expr)
  /-- one more or less, and whether the value is that of before -/
  | step (place : Expr) (up after : Bool)
  /-- an expression in parentheses, which is no place -/
  | group (e : Expr)
  | negate (e : Expr)
  | plus (e : Expr)
  | not (e : Expr)
  | binary (op : Operator) (a b : Expr)
  | concat (a b : Expr)
  | compare (c : Comparison) (a b : Expr)
  | fits (a b : Expr) (wanted : Bool)
  | among (key : List Expr) (v : Var)
  | and (a b : Expr)
  | or (a b : Expr)
  | choice (test yes no : Expr)
  | call (name : Text) (args : List Expr)
  | apply (name : Text) (args : List Expr)
  /-- the next record of the input -/
  | nextRecord (place : Option Expr)
  /-- the next record of a file -/
  | readFile (file : Expr) (place : Option Expr)
  /-- the next record that a command writes -/
  | readCommand (command : Expr) (place : Option Expr)

/-- The expression is a place that can be assigned to. -/
def Expr.isPlace : Expr → Bool
  | .var _ => true
  | .field _ => true
  | .element .. => true
  | _ => false

/-! ### Statements -/

/-- Where output goes. -/
inductive Direction where
  | plain
  | anew (file : Expr)
  | onto (file : Expr)
  | into (command : Expr)

/-- A statement. -/
inductive Statement where
  | block (body : List Statement)
  | run (e : Expr)
  | print (args : List Expr) (goal : Direction)
  | printf (args : List Expr) (goal : Direction)
  | branch (test : Expr) (yes no : Statement)
  | repeatWhile (test : Expr) (body : Statement)
  | repeatUntil (body : Statement) (test : Expr)
  /-- a loop with something in front and something after each turn -/
  | loop (before : Statement) (test : Option Expr) (after body : Statement)
  | each (v name : Var) (body : Statement)
  | breakOff
  | goOn
  | next
  | nextFile
  | exit (code : Option Expr)
  | giveBack (value : Option Expr)
  | delete (v : Var) (key : List Expr)
  | clear (v : Var)

/-! ### Programs -/

/-- What a rule is for. -/
inductive Pattern where
  | start
  | finish
  | always
  | when (e : Expr)
  /-- from a record that one holds of to one that the other holds of; no two have the same number -/
  | between (first last : Expr) (number : Nat)

/-- A rule; without anything to be done the record is written. -/
structure Rule where
  pattern : Pattern
  body : Option (List Statement)

/-- A function. -/
structure Function where
  params : List Text
  body : List Statement

/-- A program. -/
structure Program where
  rules : List Rule := []
  functions : List (Text × Function) := []

end AliasShell.Tools.Records
