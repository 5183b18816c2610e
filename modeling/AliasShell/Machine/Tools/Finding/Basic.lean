/-
What files are looked for by: expressions of tests and actions, held against one file after another.

A test that needs to know more of a file than its name and kind fails with a complaint if the file
is gone by then.  An action that starts a program for many files at once only gathers them.
-/
import AliasShell.Machine.Files.Facts
import AliasShell.Machine.Tools.Progress

namespace AliasShell.Tools.Finding

/-! ### What is found -/

/-- A file on the way through a tree. -/
structure Visit where
  /-- the path that the tree was entered by -/
  start : Text
  path : Text
  depth : Nat
  loc : Location
  node : Node
  deriving Repr, DecidableEq

/-- The last part of the path, without a `/` behind it. -/
def Visit.name (v : Visit) : Text :=
  let t := Files.bare v.path
  if t.isEmpty then ['/']
  else
    match t.cutLast (· == '/') with
    | some (_, name) => name
    | none => t

/-- The last part of the path as it was written: with a `/` behind it if there is one. -/
def Visit.ending (v : Visit) : Text :=
  if v.path.getLast? = some '/' ∧ v.name != ['/'] then v.name ++ ['/'] else v.name

/-- The path up to the last part. -/
def Visit.folder (v : Visit) : Text :=
  match (Files.bare v.path).cutLast (· == '/') with
  | some (folder, _) => folder.dropLast
  | none => if v.name = ['/'] then [] else ['.']

/-- The path behind that which the tree was entered by. -/
def Visit.below (v : Visit) : Text :=
  let t := v.path.drop v.start.length
  if t.head? = some '/' then t.drop 1 else t

/-- What the path leads to, where that is not the file itself. -/
def Visit.other (fs : Files) (v : Visit) : Option Node :=
  (targetAt fs v.path).toOption.map (·.2)

/-! ### What is done -/

/-- A program that is started for what is found. -/
structure Command where
  /-- the program and its arguments -/
  words : List Text
  /-- it runs where the file is -/
  inFolder : Bool
  /-- the user is asked before -/
  asks : Bool
  /-- one run is for many files -/
  gathers : Bool
  /-- no two commands of an expression have the same number -/
  number : Nat
  deriving Repr, DecidableEq

/-- Where something is written. -/
inductive Sink where
  | output
  | errors
  | file (path : Text)
  deriving Repr, DecidableEq

/-- What is done with a file. -/
inductive Action where
  | write (sink : Sink) (text : Files → Visit → Text)
  | run (c : Command)
  | delete
  /-- nothing below it is looked at -/
  | prune
  /-- nothing else is looked at -/
  | quit

/-- How two expressions are joined. -/
inductive Joint where
  | and
  | or
  /-- the first one is only done -/
  | after
  deriving Repr, DecidableEq

/-- How tightly a joint binds. -/
def Joint.strength : Joint → Nat
  | .after => 1
  | .or => 2
  | .and => 3

/-- What is to be found, and done with it. -/
inductive Expression where
  /-- a test, and whether it looks at more than name and kind -/
  | test (looks : Bool) (holds : Files → Visit → Bool)
  | act (a : Action)
  | not (e : Expression)
  | join (j : Joint) (a b : Expression)

/-- The expression that holds of every file. -/
def Expression.always : Expression := .test false fun _ _ => true

/-! ### How trees are walked -/

/-- Which links are followed. -/
inductive Follow where
  | never
  | starts
  | always
  deriving Repr, DecidableEq

/-- What is found, and how. -/
structure Plan where
  follow : Follow := .never
  /-- what is in a directory comes before it -/
  deep : Bool := false
  least : Nat := 0
  most : Option Nat := none
  expression : Expression

end AliasShell.Tools.Finding
