/-
Running a startup file: every line through the dispatcher, whatever the lines before it did.  And
the prompt: what `PS1` holds, which a shell without a startup file sets.

Blank lines and lines that begin with `#` are left out.  An `exit` ends its line and nothing more.
-/
import AliasShell.Dispatch

namespace AliasShell

/-! ### The startup file -/

/-- What happened in a startup file. -/
structure SourceReport where
  /-- The number of lines that were run. -/
  lines : Nat
  /-- The failures with the numbers of their lines, counted from 1. -/
  errors : List (Nat × CommandError)
  deriving Repr, DecidableEq

/-- Why a startup file, or the prompt in its place, could not be had. -/
inductive StartupError where
  | notFound (path : Text)
  | unreadable (path reason : Text)
  | env (cause : EnvError)
  deriving Repr, DecidableEq

/-- The wording of an error. -/
def StartupError.message : StartupError → Text
  | .notFound path => "Config file not found: " ++ path
  | .unreadable path reason => "failed to read " ++ path ++ ": " ++ reason
  | .env cause => cause.message

namespace Startup

/-- The line is one to run. -/
def runs (line : Text) : Bool := !line.isEmpty && !line.startsWith "#"

/-- The lines to run, trimmed, with their numbers. -/
def numberedLines (content : Text) : List (Nat × Text) :=
  (((content.cut (· == '\n')).zipIdx 1).map fun (line, n) => (n, line.trim)).filter
    fun l => runs l.2

/-- Runs numbered lines. -/
def runLines (x : Executor) : List (Nat × Text) → Session → SourceReport × Session
  | [], s => (⟨0, []⟩, s)
  | (n, line) :: rest, s =>
    match Dispatch.run x line s with
    | (r, s) =>
      match runLines x rest s with
      | (r', s) => (⟨r'.lines + 1, r.errors.map ((n, ·)) ++ r'.errors⟩, s)

/-- Runs the text of a startup file. -/
def sourceText (x : Executor) (content : Text) (s : Session) : SourceReport × Session :=
  runLines x (numberedLines content) s

/-- Reads a file as text.  Where a path leads to the input, that is read to its end. -/
def read (path : Text) (s : Session) : Except SysError Text × Session :=
  if s.files.isInput path then (Files.textOf s.input, { s with input := [] })
  else (s.files.readText path, s)

/-- Runs a startup file. -/
def source (x : Executor) (path : Text) (s : Session) :
    Except StartupError SourceReport × Session :=
  match read path s with
  | (.ok content, s) =>
    match sourceText x content s with
    | (r, s) => (.ok r, s)
  | (.error .notFound, s) => (.error (.notFound path), s)
  | (.error e, s) => (.error (.unreadable path e.message), s)

end Startup

end AliasShell

namespace AliasShell.Prompt

/-! ### The prompt -/

/-- The variable that holds the prompt. -/
def holder : Text := "PS1"

/-- The prompt that a shell without a startup file installs. -/
def standard : Text := "DLSH >> "

/-- The prompt where none is set. -/
def fallback : Text := "$ "

/-- The prompt for the next line. -/
def text (s : Session) : Text := (s.env.get? holder).getD fallback

/-- Installs the standard prompt unless there is one. -/
def ensure (s : Session) : Except StartupError Unit × Session :=
  match s.env.get? holder with
  | some _ => (.ok (), s)
  | none =>
    match s.env.set holder standard with
    | .ok env => (.ok (), { s with env })
    | .error e => (.error (.env e), s)

end AliasShell.Prompt
