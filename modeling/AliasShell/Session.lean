/-
Everything that one session owns, together with the file system it works on and the requests it has
made.  A session is a value; running something gives the session afterwards.
-/
import AliasShell.Aliases
import AliasShell.Calc.Reader
import AliasShell.Console
import AliasShell.Environment.Store
import AliasShell.Files.Operations
import AliasShell.Launch.Request
import AliasShell.Path

namespace AliasShell

/-- A session. -/
structure Session where
  aliases : Aliases
  env : Environment
  home : Option Text
  /-- The directory that relative paths hang on. -/
  cwd : Text
  /-- Computes the value of an expression. -/
  evaluator : Text → Except CalcError Text
  console : Console
  files : Files
  /-- What programs that the session starts can read. -/
  input : Bytes
  /-- What they have complained of, and nobody has taken over yet. -/
  complaints : Bytes
  /-- The launch requests so far, the first one first. -/
  requests : List Request

namespace Session

/-- A session in `cwd` with nothing set. -/
def fresh (cwd : Text) : Session where
  aliases := .empty
  env := .sorted .empty
  home := none
  cwd
  evaluator := evaluateText
  console := .unlimited
  files := .empty
  input := []
  complaints := []
  requests := []

/-- The path that a user means: home and separators resolved, relative ones hung on the session's
directory. -/
def resolve (s : Session) (path : Text) : Except PathError Text :=
  (Path.expand s.home path).map (Path.join s.cwd)

/-- The session after a write, and whether all of it was taken. -/
def write (s : Session) (t : Text) : Session × Bool :=
  let (console, ok) := s.console.write t.encode
  ({ s with console }, ok)

/-- The session after a request, and the answer. -/
def launch (l : Launcher) (r : Request) (s : Session) : Session × Except LaunchError Ending :=
  let launched := l.run s.files s.input s.requests r
  ({ s with
      requests := s.requests ++ [r]
      files := launched.files
      input := launched.input
      complaints := s.complaints ++ launched.errors
      console := s.console.childWrote launched.output },
    launched.answer)

end Session

end AliasShell
