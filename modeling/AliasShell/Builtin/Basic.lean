/-
What a builtin is: a session and arguments to a session and an outcome.  And why a command failed,
and what it leaves to be done.

A builtin that fails hands back the session it had reached.  Each one changes the session first and
writes last, so that a full output channel is the only failure with a trace.
-/
import AliasShell.Calc.Value
import AliasShell.Environment.Basic
import AliasShell.Launch.Request
import AliasShell.Path
import AliasShell.Session

namespace AliasShell

/-! ### What comes of a command -/

/-- Why a command failed. -/
inductive CommandError where
  /-- aliases were replaced too often; `command` is what stood there then -/
  | recursionLimit (command : Text) (limit : Nat)
  /-- there is no such builtin or program -/
  | notFound (program : Text)
  /-- a builtin could not use the directory at `path` -/
  | directory (command path reason : Text)
  /-- the arguments have none of the forms in `form` -/
  | usage (form : Text)
  | evaluator (expression : Text) (cause : CalcError)
  | launch (program reason : Text)
  | env (cause : EnvError)
  | path (cause : PathError)
  /-- the output channel refused a write -/
  | io (reason : Text)
  deriving Repr, DecidableEq

namespace CommandError

/-- The wording of an error. -/
def message : CommandError → Text
  | .recursionLimit command limit =>
    "alias recursion limit (" ++ Integer.digits limit ++ ") exceeded while expanding '" ++
      command ++ "'"
  | .notFound program => (LaunchError.notFound program).message
  | .directory command place reason => command ++ ": " ++ place ++ ": " ++ reason
  | .usage form => "usage: " ++ form
  | .evaluator expression cause => "math error in '" ++ expression ++ "': " ++ cause.message
  | .launch program reason => (LaunchError.failed program reason).message
  | .env cause => cause.message
  | .path cause => cause.message
  | .io reason => "IO error: " ++ reason

/-- A program that did not run is a command that failed. -/
def ofLaunch : LaunchError → CommandError
  | .notFound program => .notFound program
  | .failed program reason => .launch program reason

end CommandError

/-- What happens after a command. -/
inductive Flow where
  /-- the next command -/
  | proceed
  /-- the end, with this code -/
  | exit (code : Int)
  deriving Repr, DecidableEq

/-! ### Builtins -/

/-- The session after a builtin, and how it went. -/
abbrev Outcome := Session × Except CommandError Flow

/-- A builtin, given its arguments. -/
abbrev Action := List Text → Session → Outcome

namespace Session

/-- The session as it is, with a failure. -/
def fail (s : Session) (e : CommandError) : Outcome := (s, .error e)

/-- The session as it is, with success. -/
def done (s : Session) : Outcome := (s, .ok .proceed)

/-- A write that succeeds if all of it is taken. -/
def print (s : Session) (t : Text) : Outcome :=
  match s.write t with
  | (s, true) => (s, .ok .proceed)
  | (s, false) => (s, .error (.io Console.fullReason))

/-- A write of lines, each with a line end. -/
def printLines (s : Session) (lines : List Text) : Outcome :=
  s.print (lines.flatMap (· ++ ['\n']))

/-- Sets a variable. -/
def setVar (s : Session) (name value : Text) : Outcome :=
  match s.env.set name value with
  | .ok env => { s with env }.done
  | .error e => s.fail (.env e)

/-- Removes a variable. -/
def unsetVar (s : Session) (name : Text) : Outcome :=
  match s.env.unset name with
  | .ok env => { s with env }.done
  | .error e => s.fail (.env e)

end Session

end AliasShell
