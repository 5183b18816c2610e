/-
Starting programs: what is asked, and what comes of it.
-/
import AliasShell.Files.Basic
import AliasShell.Path

namespace AliasShell

/-- One program to run to its end. -/
structure Request where
  program : Text
  args : List Text
  cwd : Text
  /-- Everything the program finds in its environment. -/
  env : List (Bytes × Bytes)
  deriving Repr, DecidableEq

/-- Why a program did not run. -/
inductive LaunchError where
  /-- there is no such program -/
  | notFound (program : Text)
  /-- there is one, but it cannot be started -/
  | failed (program reason : Text)
  deriving Repr, DecidableEq

/-- The wording of an error. -/
def LaunchError.message : LaunchError → Text
  | .notFound program => "command not found: " ++ program
  | .failed program reason => program ++ ": " ++ reason

/-- How a program ended: with a code, or killed by a signal. -/
inductive Ending where
  | exited (code : Int)
  | killed (signal : Nat)
  deriving Repr, DecidableEq

/-- What comes of a request: its answer, the files afterwards, what is left of the input, and what
the program wrote. -/
structure Launched where
  answer : Except LaunchError Ending
  files : Files
  input : Bytes
  output : Bytes
  errors : Bytes

/-- Answers requests; it sees the files, what a program could read, and the requests made before. -/
structure Launcher where
  run : Files → Bytes → List Request → Request → Launched

/-- The same, but for where the process of the shell stands afterwards. -/
def Launched.standingAt (a : Launched) (place : Location) : Launched :=
  { a with files := a.files.standingAt place }

/-- A program starts in the directory that the request names.  Where the process of the shell stands
makes no difference to it, as long as that name does not hang on it. -/
def Launcher.IgnoresPlace (l : Launcher) : Prop :=
  ∀ (fs : Files) (place : Location) (input : Bytes) (past : List Request) (r : Request),
    Path.isAbsolute r.cwd = true →
      (l.run (fs.standingAt place) input past r).standingAt place =
        (l.run fs input past r).standingAt place

end AliasShell
