/-
`var` and `print`: variables are listed, set, computed, removed and shown.
-/
import AliasShell.Builtin.Basic

namespace AliasShell.Builtin

namespace Var

/-- The forms of the command. -/
def forms : Text := "var [NAME = VALUE | NAME=VALUE | del NAME | match NAME = EXPR]"

/-- The form of `var del`. -/
def delForm : Text := "var del NAME"

/-- One variable as it is listed. -/
def line (v : Text × Text) : Text := v.1 ++ '=' :: v.2

/-- Prints every variable that is text. -/
def list (s : Session) : Outcome := s.printLines (s.env.list.map line)

/-- Removes the variable that the first argument names. -/
def delete : Action := fun args s =>
  match args with
  | [] => s.fail (.usage delForm)
  | name :: _ => s.unsetVar name

/-- The expression that words make: trimmed, and without `;` and spaces at its end. -/
def expression (words : List Text) : Text :=
  (Text.unwords words).trim.dropEnd fun c => c == ';' || c == ' '

/-- Sets a variable to the value of an expression. -/
def compute (name : Text) (words : List Text) (s : Session) : Outcome :=
  let e := expression words
  match s.evaluator e with
  | .ok value => s.setVar name value
  | .error cause => s.fail (.evaluator e cause)

/-- Name and value of an assignment: the sides of the first `=`, trimmed. -/
def assignment? (args : List Text) : Option (Text × Text) :=
  match (Text.unwords args).cutFirst (· == '=') with
  | none => none
  | some (name, value) =>
    let name := name.trim
    if name.isEmpty then none else some (name, value.trim)

/-- Sets a variable to a text. -/
def assign : Action := fun args s =>
  match assignment? args with
  | none => s.fail (.usage forms)
  | some (name, value) => s.setVar name value

/-- The whole command.  `match` computes when a name, a lone `=` and something more follow it; else
it is a name like any other. -/
def run : Action := fun args s =>
  match args with
  | [] => list s
  | word :: rest =>
    if word = "del".toList then delete rest s
    else if word = "match".toList then
      match rest with
      | name :: ['='] :: w :: ws => compute name (w :: ws) s
      | _ => assign args s
    else assign args s

end Var

namespace Print

/-- An argument as it is shown: `$name` by the variable's value, or nothing. -/
def shown (env : Environment) : Text → Text
  | '$' :: name => (env.get? name).getD []
  | arg => arg

/-- Prints the arguments on one line. -/
def run : Action := fun args s => s.printLines [Text.unwords (args.map (shown s.env))]

end Print

end AliasShell.Builtin
