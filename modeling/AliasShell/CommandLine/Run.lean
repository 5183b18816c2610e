/-
The whole program: from its arguments, its environment and what stands on its input to what it
writes and the code that it ends with.

The input is no terminal, so lines end at `\n` or `\r\n`, nothing is edited and no history is kept.
-/
import AliasShell.CommandLine.Erase
import AliasShell.Shell.Loop

namespace AliasShell

/-- What the program finds when it starts. -/
structure Situation where
  args : List Text
  input : Bytes
  env : ProcessEnv
  /-- The path of its directory. -/
  cwd : Text
  /-- The home that the system knows for its user. -/
  accountHome : Option Text
  files : Files

/-- How the program went. -/
inductive Verdict where
  /-- the arguments start no shell -/
  | refused (why : Refusal)
  | ended (code : Nat) (output errors : Bytes)
  deriving Repr, DecidableEq

namespace Situation

/-- The home directory: what `HOME` holds, if that is anything. -/
def home (w : Situation) : Option Text :=
  match w.env.get? "HOME" with
  | some (c :: cs) => some (c :: cs)
  | _ => w.accountHome

/-- The session that the program starts with.  Programs that it starts find what is left of the
input. -/
def session (w : Situation) : Session :=
  { Session.fresh w.cwd with
    env := .process w.env, home := w.home, files := w.files, input := w.input }

/-- The terminals, by name, on which lines are read without editing but with a prompt. -/
def plainTerminals : List Text := ["dumb", "cons25", "emacs"]

/-- A prompt is shown before each line. -/
def prompts (w : Situation) : Bool :=
  (w.env.get? "TERM").any fun name => plainTerminals.contains name.toLower

/-- A line without the `\r` that belongs to its end. -/
def dropReturn (line : Bytes) : Bytes :=
  if line.getLast? = some 13 then line.dropLast else line

/-- A line as it is dealt with, after its backspaces. -/
def lineText? (line : Bytes) : Option Text := (Bytes.decode? line).map Text.erased

/-- Bytes cut behind their last line end. -/
def cutLines (b : Bytes) : Bytes × Bytes :=
  let rest := (b.reverse.takeWhile (· != 10)).reverse
  (b.take (b.length - rest.length), rest)

/-- How much of the input is read at once.  What programs read comes from behind it. -/
def blockSize : Nat := 8192

/-- What is left of an input that the history was read from: nothing, unless one of its lines is no
text.  Reading stops there, with the block in which that line ends. -/
def afterHistory (input : Bytes) : Bytes :=
  let good := input.lines.takeWhile fun line => (Bytes.decode? line).isSome
  let size := good.foldl (fun n line => n + line.length + 1) 0
  match input.lines.drop good.length with
  | [] => []
  | line :: _ => input.drop (((size + line.length) / blockSize + 1) * blockSize)

/-- Reads the history, which only shows where its path leads to the input. -/
def loadHistory {σ : Type} (sh : Shell σ) : Shell σ :=
  let s := sh.session
  if sh.locations.history.any s.files.isInput then
    { sh with session := { s with input := afterHistory s.input } }
  else sh

/-- The code that the system makes of the code of a program. -/
def systemCode (code : Int) : Nat := (code % 256).toNat

/-- The report on a shell that stopped reading. -/
def loopFailure : LoopError → Text
  | .notText =>
    "Error: Readline(Io(Error \x7b kind: InvalidData, message: \"" ++ SysError.notText.message ++
      "\" \x7d))\n"
  | .output reason => "Error: Io(" ++ reason ++ ")\n"

/-- What reads lines that come from no terminal.  It saves none of them. -/
def piped (prompts : Bool) : LineReader := ⟨prompts, [], fun _ _ fs => fs⟩

/-- Runs the lines of the input, a block at a time; `before` is the beginning of a line that has not
come to its end.  At most `n` blocks are read. -/
def readLoop {σ : Type} : Nat → Bytes → LineReader → Shell σ → Shell.Outcome σ
  | 0, _, r, sh => sh.atEnd r
  | n + 1, before, r, sh =>
    let block := sh.session.input.take blockSize
    if block.isEmpty then
      let last := if before.isEmpty then [] else [lineText? before]
      sh.loop r last
    else
      let session := { sh.session with input := sh.session.input.drop blockSize }
      let (whole, rest) := cutLines block
      if whole.isEmpty then readLoop n (before ++ rest) r { sh with session }
      else
        let lines := (before ++ whole).lines.map fun line => lineText? (dropReturn line)
        Shell.loopThen (readLoop n rest) lines r { sh with session }

/-- Everything that a shell has written, with the code it ends with. -/
def verdict {σ : Type} (code : Nat) (sh : Shell σ) (more : Text) : Verdict :=
  .ended code sh.session.console.bytes (sh.errors.bytes ++ more.encode)

/-- Runs a shell with these flags. -/
def runShell (l : Launcher) (w : Situation) (f : Flags) : Verdict :=
  let colours := Highlighter.ofVars w.env.get?
  let shell : Shell Unit := .start f ⟨l, none⟩ colours .unlimited w.session
  match f.command with
  | some line =>
    match shell.runCommand line with
    | (code, sh) => verdict (systemCode code) sh []
  | none =>
    let lines := readLoop (w.input.length + 1) [] (piped w.prompts)
    match (loadHistory shell).run lines with
    | (.ok code, sh) => verdict (systemCode code) sh []
    | (.error e, sh) => verdict 1 sh (loopFailure e)

/-- Runs the program. -/
def run (l : Launcher) (w : Situation) : Verdict :=
  match Flags.ofArgs w.args with
  | .ok f => runShell l w f
  | .error why =>
    match why.shown? with
    | some t => .ended 0 t.encode []
    | none => .refused why

end Situation

end AliasShell
