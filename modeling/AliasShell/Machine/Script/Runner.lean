/-
Scripts inside of scripts: shielded ones, those that are left running, texts that are read as
scripts, and the end of a script.

How a script is run is a parameter here, since a script runs others on its way.  A shielded script
is a process of its own that shares the world with the one around it and nothing else.

A script that is left running is run when the time has come at which it has something to do, and
then to its end, ahead of the time: what it writes later on is put aside until then.  `settle` is
what happens up to some time.
-/
import AliasShell.Machine.Script.Reader
import AliasShell.Machine.Script.State
import AliasShell.Machine.Signal

namespace AliasShell.Script

/-- What running a command needs. -/
structure Runner where
  /-- starts programs -/
  start : Starter
  /-- runs a script -/
  script : Script → State → State

namespace State

/-- The state with a jump left behind that has come to its end. -/
def landed (s : State) : State := { s with jump := none }

/-- Runs what has its status looked at. -/
def asTest (run : State → State) (s : State) : State :=
  { run { s with guarded := true } with guarded := s.guarded }

/-- The state that a shielded script begins with. -/
def enclosed (s : State) : State :=
  { s with
    traps := s.traps.filter fun trap => trap.2.isEmpty
    above := (s.number, s.traps) :: s.above
    jobs := []
    number := s.numbers + 1
    numbers := s.numbers + 1
    parent := s.number
    last := false }

/-- The state with the world that another one leaves behind, in its own directory. -/
def inherit (s other : State) : State :=
  { s with toWorld :=
    { other.toWorld with files :=
      { other.files with current := s.files.current, mask := s.files.mask } } }

/-- Says how something ended that a signal has ended. -/
def mourn (ending : Option Ending) (s : State) : State :=
  match ending with
  | some (.killed n) =>
    let t := Signal.epitaph n
    if t.isEmpty then s else (s.send 2 (t ++ ['\n']).bytes).1
  | _ => s

/-- The state after a shielded script that ended in `inner`. -/
def rejoin (s inner : State) : State :=
  let after := (s.inherit inner).withStatus inner.status
  match inner.jump with
  | some (.felled signal number) =>
    if number = s.number then after.stop (.killed signal)
    else { after with jump := some (.felled signal number) }
  | some (.ended e) => after.mourn e
  | _ => after

/-- Shows a piece of a script that was read, if that is asked for. -/
def exhibit (s : State) (t : Text) : State := if s.has 'v' then (s.send 2 t.bytes).1 else s

/-- What was written to a stream that keeps it. -/
def keptIn (s : State) (n : Nat) : Bytes :=
  match s.streams.lookup n with
  | some (.kept pieces _) => pieces.reverse.flatten
  | _ => []

/-- Whoever reads from a stream that keeps what is written to it may have wanted more. -/
def isExhausted (s : State) (n : Nat) : Bool :=
  match s.streams.lookup n with
  | some (.kept _ (.upTo 0)) => true
  | _ => false

/-- The state without a stream. -/
def dropStream (s : State) (n : Nat) : State :=
  { s with streams := s.streams.filter (·.1 != n) }

/-! ### What is to come -/

/-- The smallest number that no script has among those that were left running. -/
def freeJob (s : State) : Nat :=
  ((List.range s.jobs.length).find? fun n => !s.jobs.any (·.1 == n + 1)).getD s.jobs.length + 1

/-- The state at a later time. -/
def atTime (s : State) (t : Moment) : State := { s with files := { s.files with now := t } }

/-- How long it takes until a script that is left running begins. -/
def beginning : Moment := 500

/-- The first of the scripts that are to run up to a time. -/
def nextPending (s : State) (upTo : Option Moment) : Option Pending :=
  (s.pending.filter fun p => upTo.all fun t => p.time ≤ t).foldl
    (fun best p =>
      match best with
      | some q => if p.time < q.time then some p else some q
      | none => some p)
    none

/-- The state without a script that is to run. -/
def withoutPending (s : State) (number : Nat) : State :=
  { s with pending := s.pending.filter fun p => p.memory.number != number }

/-- The state that a script which was left running begins with. -/
def begun (s : State) (p : Pending) : State :=
  { s.withoutPending p.memory.number with
    toMemory := { p.memory with ahead := some s.freshStream }
    files := { s.files with current := p.current, mask := p.mask, now := p.began } }

/-- Writes what is to be written up to a time, to streams from `base` on. -/
def writeLate (base : Nat) (upTo : Option Moment) (s : State) : State :=
  let isDue (l : Late) : Bool := base ≤ l.stream && upTo.all fun t => l.time ≤ t
  let due := (s.later.filter isDue).reverse.mergeSort fun a b => a.time ≤ b.time
  due.foldl
    (fun s l =>
      let after := (s.deliver l.stream l.data).1
      { after with jump := s.jump, status := s.status })
    { s with later := s.later.filter fun l => !isDue l }

end State

namespace Runner

/-- Runs commands one after another. -/
def commands (r : Runner) (as : List Script) (s : State) : State :=
  match as with
  | [] => s
  | [a] => if s.running then r.script a s else s
  | a :: as =>
    if s.running then
      let after := r.script a { s with last := false }
      commands r as { after with last := s.last }
    else s

/-- The first `n` lines of a text, with their ends. -/
def firstLines : Nat → Text → Text
  | 0, _ => []
  | n + 1, t =>
    let line := t.takeWhile (· != '\n')
    let rest := t.drop line.length
    line ++ rest.take 1 ++ firstLines n (rest.drop 1)

/-- Runs the lines of a text; at most `n` lines with commands.  Those of a file are shown if that is
asked for.  A text in which no commands ran has succeeded; `ran` says that some did before. -/
def lines (r : Runner) (ofFile : Bool) : Nat → Bool → Source → State → State
  | 0, _, _, s => s
  | n + 1, ran, source, s =>
    if s.running then
      match nextLine s.aliases source with
      | .error (fault, line) =>
        let before := line - source.line + if fault.isAtLineEnd then 0 else 1
        let s := if ofFile then s.exhibit (firstLines before source.text) else s
        { s with line }.fail ("Syntax error: " ++ fault.message)
      | .ok none =>
        let s := if ran then s else s.withStatus 0
        if ofFile then s.exhibit source.text else s
      | .ok (some (as, rest)) =>
        let here := source.text.take (source.text.length - rest.text.length)
        let s := if ofFile then s.exhibit here else s
        r.lines ofFile n (ran || !as.isEmpty) rest (if s.has 'n' then s else r.commands as s)
    else s

/-- Runs a text as a script. -/
def text (r : Runner) (ofFile : Bool) (t : Text) (s : State) : State :=
  let after := r.lines ofFile (t.length + 1) false (.ofText t) { s with last := false }
  { after with last := s.last }

/-- Runs a text that was not written where it is run, so a jump out of a script that was read in
ends there. -/
def interlude (r : Runner) (t : Text) (s : State) : State :=
  { r.text false t s.landed with line := s.line }

/-- Ends a script: what it wants done at its end is done, and may end it in another way. -/
def finish (r : Runner) (s : State) : State :=
  let ending := match s.jump with
    | some (.ended e) => e
    | _ => .exited (s.status % 256)
  match s.jump, ending, s.traps.lookup Signal.exit with
  | some (.felled _ _), _, _ => s
  | _, .exited code, some t =>
    if t.isEmpty then s.stop ending
    else
      let s := { s with traps := s.traps.filter (·.1 != Signal.exit), status := ending.status }
      let after := r.interlude t { s with guarded := false }
      match after.jump with
      | some (.ended e) => after.stop e
      | some (.felled _ _) => after
      | some .fault => after.stop (.exited 2)
      | _ => after.stop (.exited code)
  | _, _, _ => s.stop ending

/-! ### What is left running -/

/-- Runs a script that was left running. -/
def begin (r : Runner) (p : Pending) (s : State) : State :=
  let after := r.finish (r.script p.script (s.begun p))
  let own := (p.memory.number, after.files.now, after.status)
  { (s.inherit after).atTime s.files.now with ended := own :: after.ended }

/-- How many scripts that were left running are run on one occasion. -/
def pendingLimit : Nat := 100000

/-- Runs the scripts that are to run up to a time, and writes what is to be written up to then. -/
def settleFor (r : Runner) (upTo : Option Moment) : Nat → State → State
  | 0, s => s
  | n + 1, s =>
    match s.nextPending upTo with
    | none => if s.ahead.isSome then s else s.writeLate 0 upTo
    | some p =>
      let s := if s.ahead.isSome then s else s.writeLate 0 (some p.time)
      settleFor r upTo n (r.begin p s)

/-- What has happened by the time that it is. -/
def settle (r : Runner) (s : State) : State :=
  if s.ahead.isSome || (s.pending.isEmpty && s.later.isEmpty) then s
  else r.settleFor (some s.files.now) pendingLimit s

/-- Waits until everything that was left running has come to its end and all is written. -/
def settleAll (r : Runner) (s : State) : State :=
  if s.pending.isEmpty && s.later.isEmpty then s
  else
    let s := r.settleFor none pendingLimit s
    s.writeLate (s.ahead.getD 0) none

/-- Runs the scripts that were left running until these processes have come to their end, and leaves
what they write to its time. -/
def runPending (r : Runner) (numbers : List Nat) : Nat → State → State
  | 0, s => s
  | n + 1, s =>
    if s.pending.any fun p => numbers.contains p.memory.number then
      match s.nextPending none with
      | none => s
      | some p => runPending r numbers n (r.begin p s)
    else s

/-- Waits for processes that were left running. -/
def await (r : Runner) (numbers : List Nat) (s : State) : State :=
  let s := r.runPending numbers pendingLimit s
  let found := s.ended.filter fun e => numbers.contains e.1
  r.settle (s.atTime (found.foldl (fun t e => max t e.2.1) s.files.now))

/-! ### Signals -/

/-- A signal comes to the script. -/
def receive (r : Runner) (signal : Nat) (s : State) : State :=
  if s.deaf.contains signal then s
  else
    match s.traps.lookup signal with
    | some t =>
      if t.isEmpty then s
      else
        let after := r.interlude t s
        if after.running then after.withStatus s.status else after
    | none => if Signal.ends signal then s.stop (.killed signal) else s

/-- The signals that have come to the script while something else ran. -/
def readMail (r : Runner) (s : State) : State :=
  if s.mail.isEmpty then s
  else
    let (own, others) := s.mail.partition (·.1 == s.number)
    own.foldl (fun s (_, signal) => if s.running then r.receive signal s else s)
      { s with mail := others }

/-- Sends a signal to a process in which this script runs. -/
def sendUp (signal number : Nat) (s : State) : State :=
  match s.above.lookup number with
  | some traps =>
    match traps.lookup signal with
    | some t => if t.isEmpty then s else { s with mail := s.mail ++ [(number, signal)] }
    | none =>
      if Signal.ends signal && !s.deaf.contains signal then
        { s with status := 128 + signal, jump := some (.felled signal number) }
      else s
  | none => { s with mail := s.mail ++ [(number, signal)] }

/-! ### Shielded scripts -/

/-- Nothing follows the commands of a script but its end. -/
def isLast : Script → Bool
  | .simple .. | .seq _ | .both _ _ | .either _ _ => true
  | _ => false

/-- Runs a script shielded from the one around it. -/
def shielded (r : Runner) (a : Script) (s : State) : State :=
  r.readMail (s.rejoin (r.finish (r.script a { s.enclosed with last := isLast a })))

/-- Runs a script shielded from the one around it, and waits for all that it has left running. -/
def whole (r : Runner) (a : Script) (s : State) : State := r.settleAll (r.shielded a s)

/-- How much can be written to a command before it reads. -/
def pipeRoom : Nat := 65536

/-- How much room a pipe is given at most. -/
def pipeLimit : Nat := 20000000

/-- Runs commands each of which reads what the one before it writes, and says whether the first one
may have wanted more of its input.

What nobody reads is never written, and a command may write without an end to one that stops
reading.  So each of them can write only so much; where the next one has read it all, both are run
again with more room.  At most `n` times. -/
def pipeFor (r : Runner) : Nat → Nat → List Script → State → State × Bool
  | _, _, [], s => (s, false)
  | _, _, [a], s => (r.whole a s, true)
  | 0, _, _, s => (s, false)
  | n + 1, room, a :: as, s =>
    let number := s.freshStream
    let after := r.whole a (s.connect 1 (.kept [] (.upTo room)))
    if !after.running then ({ after with channels := s.channels }, false)
    else
      let cut := after.isExhausted number
      let rest := { after.dropStream number with channels := s.channels, status := s.status }.connect
        0 (.source (after.keptIn number) none)
      let input := rest.channels.lookup 0
      let (final, wants) := pipeFor r n pipeRoom as rest
      let unread := match input.bind (fun k => final.streams.lookup k) with
        | some (.source left _) => !left.isEmpty
        | _ => false
      let hungry := wants && !unread
      if cut && hungry && room < pipeLimit then pipeFor r n (16 * room) (a :: as) s
      else
        let wantsMore := !(cut && !hungry)
        ({ final with channels := s.channels }, wantsMore)

/-- Runs commands each of which reads what the one before it writes. -/
def pipe (r : Runner) (as : List Script) (s : State) : State :=
  (r.pipeFor (8 * as.length + 8) pipeRoom as s).1

end Runner

end AliasShell.Script
