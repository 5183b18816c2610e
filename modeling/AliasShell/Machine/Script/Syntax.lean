/-
Scripts as they are read: commands, the words that they are made of, and redirections.

A word is a list of parts, each of them quoted or not, since a word is only expanded when its
command runs.  A part may hold a script of its own, whose output it stands for, so the three are one
definition.
-/
import AliasShell.Text.Basic

namespace AliasShell

namespace Script

/-- What a `$` can stand for. -/
inductive Param where
  | named (name : Text)
  /-- an argument; number 0 is the script itself -/
  | argument (n : Nat)
  /-- the number of arguments -/
  | count
  /-- all arguments, as one text or each on its own -/
  | all (alone : Bool)
  /-- the status of the last command -/
  | status
  /-- the number of the running process -/
  | self
  /-- the number of the last process that was not waited for -/
  | background
  /-- the letters of the options that are on -/
  | options
  deriving Repr, DecidableEq

/-- What happens to a parameter without a value. -/
inductive Otherwise where
  /-- the word comes in its place -/
  | use
  /-- and becomes its value -/
  | assign
  /-- the word is a complaint that ends the script -/
  | fail
  /-- nothing comes in its place, and the word in that of one with a value -/
  | also
  deriving Repr, DecidableEq

/-- How a redirection opens a file. -/
inductive Opening where
  | read
  | write
  /-- also where files are to be kept -/
  | force
  | append
  | both
  deriving Repr, DecidableEq

end Script

open Script in
mutual

/-- A part of a word. -/
inductive Script.Part where
  | literal (quoted : Bool) (t : Text)
  | param (quoted : Bool) (p : Param)
  /-- the number of characters of a value -/
  | length (quoted : Bool) (p : Param)
  /-- a value or a word; an empty value may count as none -/
  | instead (quoted : Bool) (p : Param) (how : Otherwise) (emptyToo : Bool) (w : List Script.Part)
  /-- a value without the shortest or longest piece at one end that a pattern fits -/
  | strip (quoted : Bool) (p : Param) (fromEnd longest : Bool) (pattern : List Script.Part)
  /-- what a script writes -/
  | output (quoted : Bool) (body : Script)
  /-- the value of an expression -/
  | sum (quoted : Bool) (w : List Script.Part)
  /-- braces with something in them that has no meaning -/
  | meaningless

/-- Where a channel of a command leads. -/
inductive Script.Redirect where
  | file (channel : Nat) (how : Opening) (path : List Script.Part)
  | copy (channel : Nat) (source : List Script.Part)
  | here (channel : Nat) (content : List Script.Part)

/-- A script.  Commands that may complain know the line they stand on. -/
inductive Script where
  | simple (line : Nat) (settings : List (Text × List Script.Part))
      (words : List (List Script.Part)) (redirects : List Script.Redirect)
  | seq (commands : List Script)
  /-- `b` if `a` succeeds -/
  | both (a b : Script)
  /-- `b` if `a` fails -/
  | either (a b : Script)
  | negated (a : Script)
  /-- each command reads what the one before it writes -/
  | pipe (commands : List Script)
  /-- not waited for -/
  | apart (a : Script)
  /-- changes nothing but files -/
  | shielded (a : Script)
  | redirected (line : Nat) (a : Script) (redirects : List Script.Redirect)
  | choice (test yes no : Script)
  /-- the body again and again, as long as the test succeeds, or fails -/
  | loop (fails : Bool) (test body : Script)
  /-- the body for each item; without items, for each argument of the script -/
  | each (line : Nat) (name : Text) (items : Option (List (List Script.Part))) (body : Script)
  /-- the first branch with a pattern that fits the subject -/
  | select (line : Nat) (subject : List Script.Part)
      (branches : List (List (List Script.Part) × Script))
  | define (name : Text) (body : Script)

end

namespace Script

/-- A word before it is expanded. -/
abbrev Word := List Part

/-- The script that does nothing. -/
def nothing : Script := .seq []

/-- Commands as one script. -/
def ofList : List Script → Script
  | [a] => a
  | as => .seq as

namespace Word

/-- The text of a word that holds nothing but unquoted text. -/
def plain? : Word → Option Text
  | [.literal false t] => some t
  | _ => none

/-- A word with more text in front. -/
def addText (quoted : Bool) (t : Text) : Word → Word
  | .literal q u :: w =>
    if q = quoted then .literal q (t ++ u) :: w else .literal quoted t :: .literal q u :: w
  | w => .literal quoted t :: w

/-- A character of a name. -/
def isNameChar (c : Char) : Bool := c.isAlphanum || c == '_'

/-- A character that a name begins with. -/
def startsName (c : Char) : Bool := c.isAlpha || c == '_'

/-- The text can be the name of a variable. -/
def isName (t : Text) : Bool := (t.head?).any startsName && t.all isNameChar

/-- Name and value of a word that is a setting: a name, `=`, and the value. -/
def setting? : Word → Option (Text × Word)
  | .literal false t :: w =>
    match t.cutFirst (· == '=') with
    | some (name, rest) =>
      if isName name then
        some (name, if rest.isEmpty then w else .literal false rest :: w)
      else none
    | none => none
  | _ => none

end Word

end Script

end AliasShell
