/-
The shell that reads its lines one after another.

A line that is not text is `none`, and reading it is a failure.  After every line the process of the
shell goes where the session now is, and the lines read so far are saved.  Neither can fail in a way
that anybody is told of.
-/
import AliasShell.Shell.Basic

namespace AliasShell

/-- Why a shell stopped reading lines before their end. -/
inductive LoopError where
  /-- a line was no text -/
  | notText
  /-- the banner could not be written -/
  | output (reason : Text)
  deriving Repr, DecidableEq

/-- What reads lines for a shell. -/
structure LineReader where
  /-- A prompt is shown before each line. -/
  prompts : Bool
  /-- The lines read so far. -/
  history : List Text
  /-- What becomes of files when lines are saved at a path. -/
  save : Text → List Text → Files → Files

/-- The reader after one more line. -/
def LineReader.took (r : LineReader) (line : Text) : LineReader :=
  { r with history := r.history ++ [line] }

namespace Shell

variable {σ : Type}

/-- What a shell that reads lines begins with. -/
def banner : Text := Flags.versionText ++ " -- type 'exit' to leave\n"

/-- Gives the hook its turn before a prompt. -/
def beforePrompt (sh : Shell σ) : Shell σ :=
  match sh.hook with
  | none => sh
  | some h =>
    match h.beforePrompt sh.session with
    | (h, session) => { sh with session, hook := some h }

/-- Shows the prompt where prompts are wanted. -/
def showPrompt (prompts : Bool) (sh : Shell σ) : Shell σ :=
  if prompts then
    let s := sh.session
    { sh with session := { s with console := s.console.prompted (Prompt.text s).encode } }
  else sh

/-- What a shell comes to. -/
abbrev Outcome (σ : Type) := Except LoopError Int × Shell σ

/-- The process goes to the directory of the session, if that is there. -/
def followSession (sh : Shell σ) : Shell σ :=
  let s := sh.session
  { sh with session := { s with files := s.files.goTo s.cwd } }

/-- Saves the lines read so far, if there is a path for them. -/
def saveHistory (r : LineReader) (sh : Shell σ) : Shell σ :=
  match sh.locations.history with
  | none => sh
  | some path =>
    let s := sh.session
    { sh with session := { s with files := r.save path r.history s.files } }

/-- What is done after every line. -/
def afterLine (r : LineReader) (sh : Shell σ) : Shell σ := sh.followSession.saveHistory r

/-- Runs lines until one of them exits, and goes on with `next` after the last one. -/
def loopThen (next : LineReader → Shell σ → Outcome σ) :
    List (Option Text) → LineReader → Shell σ → Outcome σ
  | [], r, sh => next r sh
  | none :: _, r, sh => (.error .notText, sh.beforePrompt.showPrompt r.prompts)
  | some line :: rest, r, sh =>
    let r := r.took line
    match (sh.beforePrompt.showPrompt r.prompts).handleLine line with
    | (some code, sh) => (.ok code, sh.afterLine r)
    | (none, sh) => loopThen next rest r (sh.afterLine r)

/-- The end of the lines. -/
def atEnd (r : LineReader) (sh : Shell σ) : Outcome σ :=
  (.ok 0, sh.beforePrompt.showPrompt r.prompts)

/-- Runs lines until one of them exits. -/
def loop (r : LineReader) (lines : List (Option Text)) (sh : Shell σ) : Outcome σ :=
  loopThen atEnd lines r sh

/-- Shows the banner, unless nothing is to be said, and goes on with `next`. -/
def greet (next : Shell σ → Outcome σ) (sh : Shell σ) : Outcome σ :=
  if sh.quiet then next sh
  else
    match sh.session.write banner with
    | (session, true) => next { sh with session }
    | (session, false) => (.error (.output Console.fullReason), { sh with session })

/-- Runs the startup file, shows the banner and runs lines, which `lines` does. -/
def run (lines : Shell σ → Outcome σ) (sh : Shell σ) : Outcome σ := greet lines sh.loadConfig

end Shell

end AliasShell
