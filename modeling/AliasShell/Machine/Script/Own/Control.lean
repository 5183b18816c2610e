/-
Commands of a script's own for where it goes on: jumps, other scripts, signals and processes.  First
what a name means where a command begins, apart from these commands: the programs that are found for
it.
-/
import AliasShell.Machine.Rights
import AliasShell.Machine.Script.Own.Basic
import AliasShell.Machine.Script.State
import AliasShell.Machine.Search

namespace AliasShell.Script.State

/-! ### Programs by name -/

/-- The path leads to a program file. -/
def isProgram (s : State) (path : Text) : Bool :=
  match s.files.locateWhole path with
  | .ok loc =>
    match s.files.node? loc with
    | some node => node.isProgram
    | none => false
  | .error _ => false

/-- The path leads to something. -/
def leads (s : State) (path : Text) : Bool := (s.files.locateWhole path).isOk

/-- The path leads to a file. -/
def isFile (s : State) (path : Text) : Bool :=
  match s.files.locateWhole path with
  | .ok loc =>
    match s.files.node? loc with
    | some (.file _ _) => true
    | _ => false
  | .error _ => false

/-- The files that a name without a `/` may mean. -/
def candidates (s : State) (name : Text) : List Text :=
  match s.var? "PATH" with
  | some path => Search.candidates path name
  | none => []

/-- The programs that a name without a `/` may mean. -/
def programs (s : State) (name : Text) : List Text := (s.candidates name).filter s.isProgram

/-- Where a name with a `/` leads or a program is found for another one. -/
def program? (s : State) (name : Text) : Option Text :=
  if name.contains '/' then if s.isProgram name then some name else none
  else (s.programs name).head?

/-- The complaint about a name that no program is found for.  What is found but cannot be run, be it
a directory, is told from nothing at all. -/
def missing (s : State) (name : Text) : Text :=
  name ++ if (s.candidates name).any s.leads then ": Permission denied" else ": not found"

end AliasShell.Script.State

namespace AliasShell.Script.Own

/-! ### Jumps -/

/-- The status that a jump takes along. -/
def statusFor (s : State) (args : List Text) (go : State → Nat → State) : State :=
  match args with
  | [] => go s s.status
  | t :: _ =>
    match number? t with
    | some n => go s n
    | none => s.fail (notNumber t)

/-- Ends the script. -/
def exit : Own := fun _ args s => statusFor s args fun s n => s.stop (.exited (n % 256))

/-- Ends a function or a script that was read in. -/
def back : Own := fun _ args s =>
  statusFor s args fun s n => { s with status := n, jump := some .back }

/-- Leaves loops, or all but the body of one. -/
def leaveLoops (jump : Nat → Jump) : Own := fun _ args s =>
  let n? := match args with
    | [] => some 1
    | t :: _ => number? t
  match n? with
  | some (n + 1) =>
    if s.loops = 0 then s.withStatus 0
    else { s with status := 0, jump := some (jump (min (n + 1) s.loops)) }
  | _ => s.fail (notNumber (args.headD []))

/-! ### Other scripts -/

/-- Runs the arguments as a script. -/
def eval : Own := fun r args s =>
  let t := Text.unwords args
  if t.isEmpty then s.withStatus 0
  else
    { r.text false t s with line := s.line }

/-- The path of a script that is to be read in: a name without a `/` is looked for. -/
def scriptPath? (s : State) (name : Text) : Option Text :=
  if name.contains '/' then some name
  else (s.candidates name).find? s.isFile

/-- Runs the commands of a file as if they stood here. -/
def readIn : Own := fun r args s =>
  match args with
  | [] => s.withStatus 0
  | name :: _ =>
    match scriptPath? s name with
    | none => s.fail (name ++ ": not found")
    | some path =>
      match s.files.read path with
      | .error .isDirectory => s.withStatus 0
      | .error .notFound | .error .notDirectory =>
        s.fail ("cannot open " ++ path ++ ": No such file")
      | .error e => s.fail ("cannot open " ++ path ++ ": " ++ e.reason)
      | .ok data =>
        let inside := { s with
          command := some path
          guarded := false
          calls := s.calls + 1 }
        let after := r.text true data.numbered inside
        { after with
          line := s.line
          guarded := s.guarded
          calls := s.calls
          jump := if after.jump = some .back then none else after.jump }

/-! ### Signals -/

/-- A trap as a line that a script reads back. -/
def trapLine (trap : Nat × Text) : Text :=
  "trap -- ".toList ++ quoted trap.2 ++ ' ' :: Signal.name trap.1

/-- The state with another trap for a signal, or none. -/
def setTrap (action : Option Text) (s : State) (n : Nat) : State :=
  let rest := s.traps.filter (·.1 != n)
  { s with traps := match action with
      | some t => rest ++ [(n, t)]
      | none => rest }

/-- Says what is to be done when signals come. -/
def trap : Own := fun _ args s =>
  let args := if args.head? = some ['-', '-'] then args.drop 1 else args
  match args with
  | [] => s.say (printed ((s.traps.mergeSort fun a b => a.1 ≤ b.1).map trapLine))
  | first :: rest =>
    let action := if rest.isEmpty ∨ first = ['-'] then none else some first
    (if rest.isEmpty then [first] else rest).foldl
      (fun s t =>
        match Signal.ofText? t with
        | some n => setTrap action s n
        | none => (s.sayWrong (t ++ ": bad trap")).withStatus 1)
      (s.withStatus 0)

/-- How signals are sent. -/
def killUsage : Text :=
  "Usage: kill [-s sigspec | -signum | -sigspec] [pid | job]... or\nkill -l [exitstatus]"

/-- How something ended that was left running, if it has. -/
def endOf? (s : State) (number : Nat) : Option (Moment × Nat) :=
  (s.ended.lookup number).bind fun e => if e.1 ≤ s.files.now then some e else none

/-- Sends a signal to something that was left running.  It ends here and now, and does nothing of
what it would have done from now on. -/
def sendToJob (signal number : Nat) (s : State) : State :=
  if (endOf? s number).isSome then (s.complain "No such process\n").withStatus 1
  else if !Signal.ends signal ∨ signal = 2 ∨ signal = 3 then s
  else
    let now := s.files.now
    { s.withoutPending number with
      later := s.later.filter fun l => l.owner != number || l.time ≤ now
      ended := (number, now, 128 + signal) :: s.ended.filter (·.1 != number) }

/-- The processes that a number can mean besides the script itself and what it runs in. -/
def isKnown (s : State) (n : Nat) : Bool :=
  n == 1 || n + 1 == s.main || s.var? "PPID" == some (Integer.digits n)

/-- Sends a signal to a process. -/
def sendTo (r : Runner) (signal : Nat) (s : State) (target : Text) : State :=
  if !s.running then s
  else
    match Integer.ofText? target with
    | none => refuse s (notNumber target)
    | some v =>
      let n := v.toNat
      if v = s.number then
        if signal = 0 then s
        else if (s.traps.lookup signal).isSome then { s with mail := s.mail ++ [(n, signal)] }
        else r.receive signal s
      else if (s.above.lookup n).isSome then if signal = 0 then s else Runner.sendUp signal n s
      else if (s.jobs.any (·.2 == n)) || (s.ended.lookup n).isSome then sendToJob signal n s
      else if 0 < v ∧ isKnown s n then
        if signal = 0 then s else { s with mail := s.mail ++ [(n, signal)] }
      else (s.complain "No such process\n").withStatus 1

/-- The signals by name, or the name of one. -/
def listSignals (s : State) : List Text → State
  | [] => s.say (printed (['0'] :: Signal.listed))
  | t :: _ =>
    match number? t with
    | some n =>
      match (if 128 < n then n - 128 else n) with
      | signal + 1 =>
        match Signal.listed[signal]? with
        | some name => s.say (printed [name])
        | none => refuse s ("invalid signal number or exit status: " ++ t)
      | 0 => refuse s ("invalid signal number or exit status: " ++ t)
    | none => refuse s (notNumber t)

/-- Sends signals to processes. -/
def kill : Own := fun r args s =>
  match args with
  | [] => refuse s killUsage
  | ['-', 'l'] :: args => listSignals s args
  | ['-', 's'] :: name :: targets =>
    match Signal.ofText? name with
    | some n => targets.foldl (sendTo r n) (s.withStatus 0)
    | none => refuse s ("invalid signal number or name: " ++ name)
  | ['-', '-'] :: targets => targets.foldl (sendTo r 15) (s.withStatus 0)
  | ('-' :: c :: cs) :: targets =>
    match Signal.ofText? (c :: cs) with
    | some n =>
      if targets.isEmpty then refuse s killUsage else targets.foldl (sendTo r n) (s.withStatus 0)
    | none => refuse s (badOption c)
  | targets => targets.foldl (sendTo r 15) (s.withStatus 0)

/-- Waits for one process that was left running. -/
def waitFor (r : Runner) (s : State) (t : Text) : State :=
  match number? t with
  | none => refuse s (notNumber t)
  | some n =>
    if (s.jobs.any (·.2 == n)) || (s.ended.lookup n).isSome then
      let wasOver := (endOf? s n).isSome
      let s := r.await [n] s
      match s.ended.lookup n with
      | some (_, status) =>
        let s := if wasOver ∨ status < 129 then s else s.mourn (some (.killed (status - 128)))
        s.withStatus status
      | none => s.withStatus 127
    else s.withStatus 127

/-- Waits for processes. -/
def wait : Own := fun r args s =>
  if args.isEmpty then (r.await (s.jobs.map (·.2)) s).withStatus 0
  else args.foldl (fun s t => if s.running then waitFor r s t else s) s

/-- How something that was left running is doing. -/
def jobText (s : State) (number : Nat) : Text :=
  match endOf? s number with
  | none => "Running"
  | some (_, 0) => "Done"
  | some (_, n) =>
    if 128 < n then Signal.epitaph (n - 128) else "Done(" ++ Integer.digits n ++ [')']

/-- Shows what was left running; what has come to its end is not shown again. -/
def jobs : Own := fun _ args s =>
  let line (i : Nat) (job : Nat × Nat) : Text :=
    let mark := if i = 0 then '+' else if i = 1 then '-' else ' '
    let t := jobText s job.2
    let t := t ++ List.replicate (27 - t.length) ' '
    '[' :: Integer.digits job.1 ++ "] ".toList ++ mark :: ' ' ::
      (if args.contains "-l".toList then Integer.digits job.2 ++ ' ' :: t else t)
  let lines := if args.contains "-p".toList then s.jobs.map fun job => Integer.digits job.2
    else s.jobs.mapIdx line
  { s.say (printed lines) with jobs := s.jobs.filter fun job => (endOf? s job.2).isNone }

/-! ### What else there is -/

/-- The rights that a digit of a mask leaves. -/
def rightsLeft (digit : Nat) : Text :=
  (if digit / 4 % 2 = 0 then ['r'] else []) ++ (if digit / 2 % 2 = 0 then ['w'] else []) ++
    if digit % 2 = 0 then ['x'] else []

/-- What is taken away from the rights of new files. -/
def mask : Own := fun _ args s =>
  let now := s.files.mask
  let put (n : Nat) : State := { s with files := { s.files with mask := n &&& 0o777 }, status := 0 }
  match args with
  | [] => s.say (printed [Rights.digits 4 now])
  | ['-', 'S'] :: _ =>
    s.say (printed ["u=".toList ++ rightsLeft (now / 64) ++ ",g=".toList ++
      rightsLeft (now / 8 % 8) ++ ",o=".toList ++ rightsLeft (now % 8)])
  | t :: _ =>
    if (t.head?).any Char.isDigit then
      match Rights.octal? t with
      | some n => put n
      | none => refuse s (notNumber t)
    else
      let changes := (t.cut (· == ',')).mapM fun piece =>
        if piece.all "ugoa".toList.contains then some [] else Rights.ofText? piece
      match changes with
      | some changes =>
        put (0o777 ^^^ (Rights.adjust false 0 changes.flatten (0o777 ^^^ now) &&& 0o777))
      | none => refuse s ("Illegal mode: " ++ t)

/-- The time that has gone by, which is none. -/
def times : Own := fun _ _ s =>
  let line : Text := "0m0.000000s 0m0.000000s"
  s.say (printed [line, line])

end AliasShell.Script.Own
