/-
Running a program for a session.

The program is asked for as it was named, with homes in its arguments resolved.  If it is not found
and there is a fallback interpreter, the interpreter is asked for with the whole command as one
argument; whatever goes wrong then, it is the program that was not found.
-/
import AliasShell.Session

namespace AliasShell

/-- An interpreter for commands that are no programs, and its option for a command text. -/
structure Fallback where
  program : Text
  flag : Text
  deriving Repr, DecidableEq

/-- Runs programs. -/
structure Executor where
  launcher : Launcher
  fallback : Option Fallback

namespace Executor

/-- The request for a program, as the session stands. -/
def request (s : Session) (program : Text) (args : List Text) : Request where
  program
  args := args.map (Path.expandArg s.home)
  cwd := s.cwd
  env := s.env.snapshot

/-- The same request, put to the interpreter. -/
def retry (f : Fallback) (r : Request) : Request :=
  { r with program := f.program, args := [f.flag, Text.unwords (r.program :: r.args)] }

/-- Runs a program to its end.  How it ended is no concern of the shell's. -/
def spawn (x : Executor) (program : Text) (args : List Text) (s : Session) :
    Session × Except LaunchError Unit :=
  let r := request s program args
  match s.launch x.launcher r with
  | (s, .ok _) => (s, .ok ())
  | (s, .error (.failed p reason)) => (s, .error (.failed p reason))
  | (s, .error (.notFound _)) =>
    match x.fallback with
    | none => (s, .error (.notFound program))
    | some f =>
      match s.launch x.launcher (retry f r) with
      | (s, .ok _) => (s, .ok ())
      | (s, .error _) => (s, .error (.notFound program))

end Executor

end AliasShell
