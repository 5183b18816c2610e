/-
The program that runs scripts: a script in an argument, in a file, or on its input.
-/
import AliasShell.Machine.Script.Run

namespace AliasShell.Script.Program

/-- What the options ask for. -/
structure Wish where
  state : State
  /-- the script stands in the first argument -/
  inArgument : Bool
  /-- the script stands on the input -/
  onInput : Bool
  args : List Text

/-- Letters of options after a sign. -/
def letters (turnsOn : Bool) : List Char → Wish → Wish
  | [], w => w
  | c :: cs, w =>
    if !w.state.running then w
    else if c = 'c' then letters turnsOn cs { w with inArgument := true }
    else if c = 's' then letters turnsOn cs { w with onInput := true }
    else if c = 'l' then letters turnsOn cs w
    else
      let (state, args) := Own.turnAll turnsOn [c] w.args w.state
      letters turnsOn cs { w with state, args }

/-- Options in front; at most `n`. -/
def options : Nat → Wish → Wish
  | 0, w => w
  | n + 1, w =>
    match w.args with
    | ['-'] :: args | ['-', '-'] :: args => { w with args }
    | ('-' :: cs) :: args => options n (letters true cs { w with args })
    | ('+' :: cs) :: args => options n (letters false cs { w with args })
    | _ => w

/-- What is written after the script has ended, in order. -/
def echoes (s : State) : List Echo :=
  let found := s.later.reverse.filterMap fun l =>
    match s.streams.lookup l.stream with
    | some (.channel c _) => some (⟨l.time, c, l.data⟩ : Echo)
    | _ => none
  found.mergeSort fun a b => a.time ≤ b.time

/-- What a process leaves behind in which a script has come to this state. -/
def aftermath (r : Runner) (s : State) : Aftermath :=
  let ending := match s.jump with
    | some (.ended e) => e
    | some (.felled signal _) => .killed signal
    | _ => .exited s.status
  let input := match s.streams.lookup 0 with
    | some (.source rest _) => rest
    | _ => []
  let last := r.runPending (s.pending.map fun p => p.memory.number) Runner.pendingLimit s
  { ending
    files := { last.files with now := s.files.now }
    input
    transcript := last.written.reverse
    numbers := last.numbers
    later := echoes last
    signals := last.mail }

/-- Runs a text as the script of a state; in an argument, a last program takes its place. -/
def runText (start : Starter) (ofFile : Bool) (t : Text) (s : State) : Aftermath :=
  let r : Runner := ⟨start, exec start depthLimit⟩
  aftermath r (r.finish (r.text ofFile t s))

/-- Complains before there is a script. -/
def refuse (start : Starter) (s : State) (t : Text) : Aftermath :=
  aftermath ⟨start, exec start depthLimit⟩ ({ s with line := 0 }.fail t)

/-- Runs a script file. -/
def runFile (start : Starter) (path : Text) (args : List Text) (s : State) : Aftermath :=
  match s.files.read path with
  | .ok data => runText start true data.numbered { s with self := path, args }
  | .error .isDirectory => runText start true [] s
  | .error .notFound | .error .notDirectory =>
    refuse start s ("cannot open " ++ path ++ ": No such file")
  | .error e => refuse start s ("cannot open " ++ path ++ ": " ++ e.reason)

/-- The program. -/
def run (start : Starter) (p : Process) : Aftermath :=
  let first := { State.start p p.name [] [] with line := 0 }
  let w := options (p.args.length + 1) ⟨first, false, false, p.args⟩
  let s := { w.state with line := 1 }
  if !w.state.running then runText start false [] w.state
  else if w.inArgument then
    match w.args with
    | [] => refuse start s "-c requires an argument"
    | t :: rest =>
      runText start false t { s with self := rest.headD p.name, args := rest.drop 1 }
  else
    match w.onInput, w.args with
    | false, path :: args => runFile start path args s
    | _, args =>
      let s := { s with options := Own.optionLetters.filter fun c => c = 's' || s.has c }
      runText start true p.input.numbered ({ s with args }.setStream 0 (.source [] none))

end AliasShell.Script.Program
