/-
`cd` and `ls`: going to a directory and listing one.
-/
import AliasShell.Builtin.Basic
import AliasShell.Environment.Entries
import AliasShell.Files.Calendar

namespace AliasShell.Builtin

namespace Cd

/-- The variable that holds the session's directory. -/
def workingDir : Text := "PWD"

/-- The directory meant by the arguments: the first one, or the home, or the root. -/
def target (args : List Text) (home : Option Text) : Text :=
  match args with
  | path :: _ => path
  | [] => home.getD "/"

/-- A failure to go to `path`. -/
def refused (path reason : Text) : CommandError := .directory "cd" path reason

/-- Goes to a directory and says so in `PWD`. -/
def run : Action := fun args s =>
  let path := target args s.home
  match s.resolve path with
  | .error e => s.fail (.path e)
  | .ok resolved =>
    match s.files.canonical resolved with
    | .error e => s.fail (refused path e.message)
    | .ok cwd =>
      if s.files.isDir cwd then
        match s.env.set workingDir cwd with
        | .ok env => { s with env, cwd }.done
        | .error e => s.fail (.env e)
      else s.fail (refused path "Not a directory")

end Cd

namespace Ls

/-- How to list. -/
structure Options where
  hidden : Bool
  long : Bool
  deriving Repr, DecidableEq

/-- An argument that holds options. -/
def isFlag (arg : Text) : Bool := arg.startsWith "-"

/-- The options in all flag arguments together. -/
def Options.ofArgs (args : List Text) : Options where
  hidden := (args.filter isFlag).any (·.contains 'a')
  long := (args.filter isFlag).any (·.contains 'l')

/-- The first argument that is no flag, or the session's directory. -/
def target (args : List Text) : Text := (args.find? fun a => !isFlag a).getD "."

/-- The entries to show, in the order of their names.  What is known of an entry besides its name
stands with it; that can be nothing. -/
def shown (o : Options) (entries : List (Text × Option Node)) : List (Text × Option Node) :=
  (entries.filter fun e => o.hidden || !e.1.startsWith ".").mergeSort fun a b => a.1.le b.1

/-- When an entry changed. -/
def timeText : Option Node → Text
  | some node => Calendar.minuteText (Moment.seconds node.modified)
  | none => "????-??-?? ??:??"

/-- An entry in the long listing: what it is, when it changed, its name. -/
def longLine (e : Text × Option Node) : Text :=
  (if e.2.any Node.isDir then 'd' else '-') :: "  " ++ timeText e.2 ++ "  " ++ e.1

/-- The lines of a listing. -/
def lines (o : Options) (entries : List (Text × Option Node)) : List Text :=
  let entries := shown o entries
  if o.long then entries.map longLine else ["  ".toList.intercalate (entries.map (·.1))]

/-- Entries of which everything is known. -/
def known (entries : List (Text × Node)) : List (Text × Option Node) :=
  entries.map fun e => (e.1, some e.2)

/-- A failure to list `path`. -/
def refused (path reason : Text) : CommandError := .directory "ls" path reason

/-- Lists a directory. -/
def run : Action := fun args s =>
  let path := target args
  match s.resolve path with
  | .error e => s.fail (.path e)
  | .ok dir =>
    if s.files.isDir dir then
      match s.files.readDir dir with
      | .ok entries => s.printLines (lines (.ofArgs args) (known entries))
      | .error e => s.fail (refused path e.message)
    else s.fail (refused path "No such directory")

end Ls

end AliasShell.Builtin
