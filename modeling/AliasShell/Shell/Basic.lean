/-
A shell: a session, the way its commands are run, and a sink for reports.

Reports go into that sink and nowhere else.  Nothing that a shell does depends on what the sink
holds or takes, or on whether reports are wanted at all.
-/
import AliasShell.CommandLine.Flags
import AliasShell.Highlight
import AliasShell.Shell.Hook
import AliasShell.Startup.Locations
import AliasShell.Startup.Source

namespace AliasShell

/-- What reports go into.  It goes on in some way after every write, whether it took all of it, some
of it or nothing; nobody asks. -/
class Sink (κ : Type) where
  /-- After a write of the shell. -/
  reported : κ → Bytes → κ
  /-- After programs have complained. -/
  complained : κ → Bytes → κ

/-- A channel keeps what it has room for, and what programs write. -/
instance : Sink Console where
  reported c b := (c.write b).1
  complained := Console.childWrote

/-- A shell, perhaps with a hook whose state is a `σ`; its reports go into a `κ`. -/
structure Shell (σ : Type) (κ : optParam Type Console) where
  session : Session
  executor : Executor
  locations : Locations
  /-- Nothing is reported. -/
  quiet : Bool
  hook : Option (Hook σ)
  highlighter : Highlighter
  /-- Where reports go. -/
  errors : κ

/-- The files that the flags choose. -/
def Flags.locations (f : Flags) (home : Option Text) : Locations :=
  let l := ((Locations.ofHome home).withStartup f.config).withHistory f.history
  if f.noRc then l.withoutStartup else l

namespace Shell

variable {σ κ : Type}

/-- A shell around a session, without a hook. -/
def start (f : Flags) (x : Executor) (h : Highlighter) (errors : κ) (s : Session) :
    Shell σ κ where
  session := s
  executor := x
  locations := f.locations s.home
  quiet := f.quiet
  hook := none
  highlighter := h
  errors

/-! ### Reports -/

/-- A report as it is written. -/
def reportText (sh : Shell σ κ) (message : Text) : Text := sh.highlighter.error message ++ ['\n']

variable [Sink κ]

/-- Reports one failure.  A sink that does not take it is no failure of its own. -/
def report (sh : Shell σ κ) (message : Text) : Shell σ κ :=
  if sh.quiet then sh
  else { sh with errors := Sink.reported sh.errors (sh.reportText message).encode }

/-- Reports failures one after another. -/
def reportAll (sh : Shell σ κ) (messages : List Text) : Shell σ κ := messages.foldl report sh

/-- Passes on what programs have complained of. -/
def passComplaints (sh : Shell σ κ) : Shell σ κ :=
  { sh with
    errors := Sink.complained sh.errors sh.session.complaints
    session := { sh.session with complaints := [] } }

/-! ### The startup file -/

/-- A failure in a startup file, as it is reported. -/
def startupMessage (path : Text) (failure : Nat × CommandError) : Text :=
  path ++ ':' :: Integer.digits failure.1 ++ ": " ++ failure.2.message

/-- The reports on a startup file.  One that nobody asked for by name may be missing. -/
def startupMessages (l : Locations) (path : Text) : Except StartupError SourceReport → List Text
  | .ok r => r.errors.map (startupMessage path)
  | .error e =>
    match e with
    | .notFound _ => if l.explicit then [e.message] else []
    | _ => [e.message]

/-- Installs the standard prompt unless there is one. -/
def ensurePrompt (sh : Shell σ κ) : Shell σ κ :=
  match Prompt.ensure sh.session with
  | (.ok (), session) => { sh with session }
  | (.error e, session) => { sh with session }.report e.message

/-- Runs the startup file; where there is none that can be read, sees to the prompt. -/
def loadConfig (sh : Shell σ κ) : Shell σ κ :=
  match sh.locations.startup with
  | none => sh.ensurePrompt
  | some path =>
    match Startup.source sh.executor path sh.session with
    | (result, session) =>
      let sh := { sh with session }.passComplaints.reportAll
        (startupMessages sh.locations path result)
      match result with
      | .ok _ => sh
      | .error _ => sh.ensurePrompt

/-! ### Lines -/

/-- Runs a line past the hook; the code is that of `exit`, if it ran. -/
def dispatch (sh : Shell σ κ) (line : Text) : Option Int × Shell σ κ :=
  match Dispatch.run sh.executor line sh.session with
  | (r, session) =>
    (r.exit, { sh with session }.passComplaints.reportAll (r.errors.map CommandError.message))

/-- Runs a line, unless the hook deals with it. -/
def handleLine (sh : Shell σ κ) (line : Text) : Option Int × Shell σ κ :=
  match sh.hook with
  | none => sh.dispatch line
  | some h =>
    match h.input line sh.session with
    | (answer, h, session) =>
      let sh := { sh with session, hook := some h }
      match answer with
      | .ok true => (none, sh)
      | .ok false => sh.dispatch line
      | .error reason => (sh.report (Hook.failure reason)).dispatch line

/-- Runs the startup file and one line, and ends with a code. -/
def runCommand (sh : Shell σ κ) (line : Text) : Int × Shell σ κ :=
  match sh.loadConfig.handleLine line with
  | (exit, sh) => (exit.getD 0, sh)

end Shell

end AliasShell
