/-
`alias`: lists, adds, deletes and clears aliases.
-/
import AliasShell.Builtin.Basic

namespace AliasShell.Builtin.AliasVerb

/-- The forms of the command. -/
def forms : Text := "alias [list | add NAME=VALUE | del NAME | clear], got '"

/-- The form of `alias add`. -/
def addForm : Text := "alias add name=value"

/-- The form of `alias del`. -/
def delForm : Text := "alias del NAME"

/-- One alias as it is listed. -/
def line (e : Text × Text) : Text := e.1 ++ '=' :: e.2

/-- The lines of the listing. -/
def lines (t : Aliases) : List Text :=
  if t.isEmpty then ["No aliases."] else t.entries.map line

/-- Prints the table. -/
def list (s : Session) : Outcome := s.printLines (lines s.aliases)

/-- Name and value of a declaration: the sides of its first `=`, trimmed.  A name is not empty and
holds no white space. -/
def declaration? (args : List Text) : Option (Text × Text) :=
  match (Text.unwords args).cutFirst (· == '=') with
  | none => none
  | some (name, value) =>
    let name := name.trim
    if name.isEmpty || name.any isBlank then none else some (name, value.trim)

/-- Adds the alias that the arguments declare. -/
def add : Action := fun args s =>
  match declaration? args with
  | none => s.fail (.usage addForm)
  | some (name, value) =>
    { s with aliases := s.aliases.add name value }.printLines
      ["Alias added: '" ++ name ++ "' -> '" ++ value ++ "'"]

/-- Deletes the alias that the first argument names, there or not. -/
def delete : Action := fun args s =>
  match args with
  | [] => s.fail (.usage delForm)
  | name :: _ =>
    { s with aliases := s.aliases.remove name }.printLines ["Alias removed: " ++ name]

/-- The whole command. -/
def run : Action := fun args s =>
  match args with
  | [] => list s
  | word :: rest =>
    if word = "list".toList then list s
    else if word = "add".toList then add rest s
    else if word = "del".toList then delete rest s
    else if word = "clear".toList then { s with aliases := .empty }.done
    else s.fail (.usage (forms ++ word ++ "'"))

end AliasShell.Builtin.AliasVerb
