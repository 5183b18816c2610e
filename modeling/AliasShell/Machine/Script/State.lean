/-
The state of a running script: its variables and arguments, where its channels lead, the files, and
whether it is on its way out of something.

Channels are numbers that lead to streams, and several may lead to the same one, which then is read
and written by all of them in turn.  A script that was left by `exit` or a fault keeps its state and
a jump in it; whoever runs the next command looks at the jump first.

A state has two parts.  What a script has for itself is copied for every script that runs shielded
from it, and what scripts share is handed on from one to the other.  Time is shared: it goes by when
programs run, and what was left running may have something to write or to do at times to come.
-/
import AliasShell.Machine.Process
import AliasShell.Machine.Script.Syntax

namespace AliasShell.Script

/-- What a channel leads to. -/
inductive Stream where
  /-- a channel of the process -/
  | channel (c : Channel) (outlet : Outlet)
  /-- a file by its number, and how far it is read or written; some are only written at their end -/
  | file (number offset : Nat) (appends : Bool)
  | device (d : Device)
  /-- bytes to be read, which may begin at a place in a file -/
  | source (rest : Bytes) (position : Option Nat)
  /-- what is written is kept for another command, the last piece first -/
  | kept (pieces : List Bytes) (outlet : Outlet)
  /-- what is written is lost, and nothing is there to be read -/
  | lost
  deriving Repr, DecidableEq

/-- A variable, which may be known without having a value. -/
structure Variable where
  name : Text
  value : Option Text
  /-- Programs find it in their environment. -/
  exported : Bool
  readOnly : Bool
  deriving Repr, DecidableEq

/-- What a script is on its way out of. -/
inductive Jump where
  /-- this many loops -/
  | leave (loops : Nat)
  /-- all but one of this many loops, and the rest of the body of that one -/
  | again (loops : Nat)
  /-- a function, or a script that was read in -/
  | back
  /-- everything, up to a command that outlives what goes wrong in it -/
  | fault
  /-- everything -/
  | ended (e : Ending)
  /-- everything, up to a process in which this one runs -/
  | felled (signal number : Nat)
  deriving Repr, DecidableEq

/-- How much there is of something: the limit that holds, and the one up to which it may be raised;
`none` is no limit. -/
structure Limit where
  soft : Option Nat := none
  hard : Option Nat := none
  deriving Repr, DecidableEq

/-- What a running script has for itself. -/
structure Memory where
  /-- The variables, in the order in which they came to be. -/
  vars : List Variable
  /-- What the functions that run have hidden of them, the innermost first. -/
  hidden : List (List (Text × Option Variable))
  functions : List (Text × Script)
  aliases : List (Text × Text)
  /-- What the script was called. -/
  self : Text
  args : List Text
  status : Nat
  /-- The streams that channels lead to. -/
  channels : List (Nat × Nat)
  /-- The letters of the options that are on. -/
  options : List Char
  /-- What is run when a signal comes, or at the end; a signal with nothing to run is ignored. -/
  traps : List (Nat × Text)
  /-- The signals that were ignored before the script began, which no trap changes. -/
  deaf : List Nat
  /-- The status of what runs is looked at, so a failure does not end the script. -/
  guarded : Bool
  /-- The status of the last script in a word of this command. -/
  substituted : Option Nat
  /-- The path that the directory is called by. -/
  directory : Text
  /-- The line that the command stands on. -/
  line : Nat
  /-- The command of the script's own that runs. -/
  command : Option Text
  jump : Option Jump
  /-- How many loops run within each other. -/
  loops : Nat
  /-- How many functions and scripts that were read in. -/
  calls : Nat
  /-- How many functions run within each other. -/
  depth : Nat
  /-- The limits that there are, by the letters of what they are for. -/
  limits : List (Char × Limit)
  /-- The scripts that were left running and not reported on: their numbers among them and as
  processes, the last one first. -/
  jobs : List (Nat × Nat)
  /-- The number of the process that was left running last. -/
  lastJob : Option Nat
  /-- How many characters of the next argument `getopts` has dealt with. -/
  optionAt : Nat
  /-- The names that programs were found for, with their paths. -/
  found : List (Text × Text)
  /-- The number of the process, of the one that started it, and of the outermost script. -/
  number : Nat
  parent : Nat
  main : Nat
  /-- Nothing follows the command that runs, so a program takes the place of the script. -/
  last : Bool
  /-- The processes in which this one runs, with their traps, the innermost first. -/
  above : List (Nat × List (Nat × Text))
  /-- The script runs ahead of the time that has come, and others see what it writes to the streams
  below this number. -/
  ahead : Option Nat

/-- Something that is written at a time to come, by the process of a number. -/
structure Late where
  time : Moment
  owner : Nat
  stream : Nat
  data : Bytes

/-- A script that runs at a time to come. -/
structure Pending where
  time : Moment
  script : Script
  memory : Memory
  /-- When it was left running. -/
  began : Moment
  /-- Its directory, and what it takes away from rights. -/
  current : Location
  mask : Nat

/-- What scripts share that run within each other. -/
structure World where
  files : Files
  streams : List (Nat × Stream)
  /-- Files that have lost their names while they are open. -/
  nameless : List (Nat × Bytes)
  /-- What was written to the channels of the process, the last piece first. -/
  written : Transcript
  later : List Late
  pending : List Pending
  /-- The processes that were left running and have come to an end: when, and with which status. -/
  ended : List (Nat × Moment × Nat)
  /-- Signals on their way to processes. -/
  mail : List (Nat × Nat)
  /-- The last number that was given to a process. -/
  numbers : Nat

/-- A running script. -/
structure State extends Memory, World

namespace State

/-! ### Variables -/

/-- The variable of a name. -/
def known? (s : State) (name : Text) : Option Variable := s.vars.find? (·.name == name)

/-- The value of a variable. -/
def var? (s : State) (name : Text) : Option Text := (s.known? name).bind Variable.value

/-- The value of a variable, or nothing. -/
def var (s : State) (name : Text) : Text := (s.var? name).getD []

/-- The option with this letter is on. -/
def has (s : State) (letter : Char) : Bool := s.options.contains letter

/-- Variables with a changed one, or a new one at the end. -/
def changeIn (name : Text) (change : Variable → Variable) : List Variable → List Variable
  | [] => [change ⟨name, none, false, false⟩]
  | v :: vs => if v.name = name then change v :: vs else v :: changeIn name change vs

/-- The state with a variable changed. -/
def change (s : State) (name : Text) (f : Variable → Variable) : State :=
  { s with vars := changeIn name f s.vars }

/-- The state with a value for a variable, which is not checked.  Whoever sets `OPTIND` begins anew
with the options. -/
def put (s : State) (name value : Text) : State :=
  let exporting := s.has 'a'
  let s := if name = "OPTIND".toList then { s with optionAt := 0 } else s
  let s := if name = "PATH".toList then { s with found := [] } else s
  s.change name fun v => { v with value := some value, exported := v.exported || exporting }

/-- The state without a variable. -/
def forget (s : State) (name : Text) : State :=
  { s with vars := s.vars.filter (·.name != name) }

/-- The state with a variable as it was. -/
def restore (s : State) (name : Text) (old : Option Variable) : State :=
  match old with
  | none => s.forget name
  | some v => s.change name fun _ => v

/-- Which of so many lists a name is kept in. -/
def listOf (lists : Nat) (name : Text) : Nat :=
  match name.bytes with
  | [] => 0
  | b :: bs => (16 * b.toNat + (b :: bs).foldl (fun n x => n + x.toNat) 0) % lists

/-- The order in which what is kept in so many lists is shown. -/
def inLists {α : Type} (lists : Nat) (name : α → Text) (items : List α) : List α :=
  (List.range lists).flatMap fun n => items.filter fun x => listOf lists (name x) == n

/-- The variables in the order in which they are listed. -/
def listed (s : State) : List Variable := inLists 39 Variable.name s.vars

/-- The state that remembers where a program was found. -/
def remember (s : State) (name path : Text) : State :=
  if name.contains '/' || (s.found.lookup name).isSome then s
  else { s with found := s.found ++ [(name, path)] }

/-- What programs find. -/
def environment (s : State) : ProcessEnv :=
  ⟨s.listed.filterMap fun v =>
    if v.exported then v.value.map fun t => ProcessEnv.entry v.name.bytes t.bytes else none⟩

/-! ### Streams -/

/-- The stream that a channel leads to, with its number. -/
def stream? (s : State) (channel : Nat) : Option (Nat × Stream) :=
  match s.channels.lookup channel with
  | none => none
  | some n => (s.streams.lookup n).map fun x => (n, x)

/-- Streams with another one in place of that of a number. -/
def replaceStream (n : Nat) (x : Stream) : List (Nat × Stream) → List (Nat × Stream)
  | [] => [(n, x)]
  | e :: es => if e.1 = n then (n, x) :: es else e :: replaceStream n x es

/-- The state with another stream under a number. -/
def setStream (s : State) (n : Nat) (x : Stream) : State :=
  { s with streams := replaceStream n x s.streams }

/-- The channel leads to a stream of this number. -/
def lead (s : State) (channel n : Nat) : State :=
  { s with channels := (channel, n) :: s.channels.filter (·.1 != channel) }

/-- The channel leads nowhere. -/
def close (s : State) (channel : Nat) : State :=
  { s with channels := s.channels.filter (·.1 != channel) }

/-- The number of a stream that is not there yet. -/
def freshStream (s : State) : Nat := s.streams.foldl (fun n e => max n (e.1 + 1)) 0

/-- The channel leads to a new stream. -/
def connect (s : State) (channel : Nat) (x : Stream) : State :=
  let n := s.freshStream
  (s.setStream n x).lead channel n

/-- The state on its way out. -/
def stop (s : State) (e : Ending) : State :=
  { s with status := e.status, jump := some (.ended e) }

/-- The state on its way out because something went wrong. -/
def wreck (s : State) : State := { s with status := 2, jump := some .fault }

/-- The signal does nothing to the script. -/
def ignores (s : State) (signal : Nat) : Bool :=
  s.deaf.contains signal || s.traps.lookup signal = some []

/-! Open files -/

/-- The contents of the file of a number. -/
def fileData (s : State) (number : Nat) : Bytes :=
  let named := s.files.nodes.findSome? fun (_, node) =>
    match node with
    | .file data t => if t.number = number then some data else none
    | _ => none
  (named <|> s.nameless.lookup number).getD []

/-- The file of a number has a name. -/
def isNamed (files : Files) (number : Nat) : Bool :=
  files.nodes.any fun (_, node) =>
    match node with
    | .file _ t => t.number == number
    | _ => false

/-- The state with other contents for the file of a number. -/
def setFileData (s : State) (number : Nat) (data : Bytes) : State :=
  if isNamed s.files number then
    { s with files := s.files.changeNumber number fun
        | .file _ t => .file data { t with modified := s.files.now }
        | node => node }
  else { s with nameless := (number, data) :: s.nameless.filter (·.1 != number) }

/-- The number of the file at a location, which is given to it if it has none. -/
def fileNumber (s : State) (loc : Location) : State × Nat :=
  match s.files.node? loc with
  | some (.file data t) =>
    if t.number != 0 then (s, t.number)
    else
      let numbers := s.nameless.map (·.1) ++ s.files.nodes.map fun (_, node) =>
        match node with
        | .file _ t => t.number
        | _ => 0
      let number := numbers.foldl max 0 + 1
      ({ s with files := s.files.put loc (.file data { t with number }) }, number)
  | _ => (s, 0)

/-- The state with the files that a program has left behind.  A file that is open and has lost its
last name is still there. -/
def adopt (s : State) (files : Files) : State :=
  let lost := s.streams.filterMap fun (_, x) =>
    match x with
    | .file number _ _ =>
      if isNamed s.files number && !isNamed files number then some (number, s.fileData number)
      else none
    | _ => none
  { s with
    files := { files with current := s.files.current, mask := s.files.mask }
    nameless := lost ++ s.nameless }

/-- Bytes with others in place of those from an offset on. -/
def overwritten (data : Bytes) (offset : Nat) (b : Bytes) : Bytes :=
  if offset = data.length then data ++ b
  else
    data.take offset ++ List.replicate (offset - data.length) 0 ++ b ++
      data.drop (offset + b.length)

/-! Writing -/

/-- What an outlet takes of some bytes, and what it is after that; `none` if it refuses them. -/
def pass (b : Bytes) : Outlet → Option (Bytes × Outlet)
  | .free => some (b, .free)
  | .upTo n => some (b.take n, .upTo (n - b.length))
  | _ => if b.isEmpty then some ([], .free) else none

/-- Something is written that nobody will read. -/
def isUnread (b : Bytes) : Outlet → Bool
  | .upTo n => n < b.length
  | _ => false

/-- The state after bytes were written to a stream, and whether it took them.  A script that writes
what nobody reads is ended by a signal. -/
def deliver (s : State) (n : Nat) (b : Bytes) : State × Bool :=
  let into (outlet : Outlet) (put : Bytes → Outlet → State) : State × Bool :=
    match pass b outlet with
    | none => (s, false)
    | some (taken, outlet') =>
      let after := put taken outlet'
      if isUnread b outlet then
        if s.ignores 13 then (after, false) else (after.stop (.killed 13), true)
      else (after, true)
  match s.streams.lookup n with
  | none => (s, b.isEmpty)
  | some (.channel c outlet) =>
    into outlet fun taken outlet' =>
      { s.setStream n (.channel c outlet') with written := (c, taken) :: s.written }
  | some (.file number offset appends) =>
    let data := s.fileData number
    let offset := if appends then data.length else offset
    let after := s.setFileData number (overwritten data offset b)
    (after.setStream n (.file number (offset + b.length) appends), true)
  | some (.device d) => (s, d != .full || b.isEmpty)
  | some (.kept pieces outlet) =>
    into outlet fun taken outlet' => s.setStream n (.kept (taken :: pieces) outlet')
  | some .lost => (s, true)
  | some (.source _ _) => (s, b.isEmpty)

/-- The script runs ahead of the time, and others see what it writes to the stream of a number. -/
def isAhead (s : State) (n : Nat) : Stream → Bool
  | .channel _ _ | .kept _ _ => s.ahead.any fun base => n < base
  | _ => false

/-- The state after bytes were written to a channel, and whether it took them. -/
def send (s : State) (channel : Nat) (b : Bytes) : State × Bool :=
  match s.stream? channel with
  | none => (s, b.isEmpty)
  | some (n, x) =>
    if s.isAhead n x then
      ({ s with later := ⟨s.files.now, s.number, n, b⟩ :: s.later }, true)
    else s.deliver n b

/-- What becomes of what a program writes to the output. -/
def outlet (s : State) : Outlet :=
  match s.stream? 1 with
  | none => .closed
  | some (n, .channel c outlet) => if s.isAhead n (.channel c outlet) then .free else outlet
  | some (n, .kept pieces outlet) => if s.isAhead n (.kept pieces outlet) then .free else outlet
  | some (_, .device .full) => .full
  | some (_, .source _ _) => .closed
  | some _ => .free

/-! Reading -/

/-- What can be read from a channel, and where in a file that begins. -/
def readable (s : State) (channel : Nat) : Bytes × Option Nat :=
  match s.stream? channel with
  | some (_, .source rest position) => (rest, position)
  | some (_, .file number offset _) => ((s.fileData number).drop offset, some offset)
  | some (_, .device .zeros) | some (_, .device .full) =>
    (List.replicate Process.endless 0, none)
  | _ => ([], none)

/-- The state with less to be read from a channel. -/
def leaveUnread (s : State) (channel : Nat) (rest : Bytes) : State :=
  match s.stream? channel with
  | some (n, .source before position) =>
    s.setStream n (.source rest (position.map (· + (before.length - rest.length))))
  | some (n, .file number offset appends) =>
    let before := (s.fileData number).length - offset
    s.setStream n (.file number (offset + (before - rest.length)) appends)
  | _ => s

/-! ### Complaints and statuses -/

/-- The state with a status. -/
def withStatus (s : State) (n : Nat) : State := { s with status := n }

/-- The state after a complaint. -/
def complain (s : State) (t : Text) : State :=
  let command := match s.command with
    | some name => name ++ ": "
    | none => []
  let whole := s.self ++ ": " ++ Integer.digits s.line ++ ": " ++ command ++ t ++ ['\n']
  (s.send 2 whole.bytes).1

/-- The state after a complaint of a command that does not say where it stands. -/
def sayWrong (s : State) (t : Text) : State :=
  (s.send 2 (s.command.getD [] ++ ": " ++ t ++ ['\n']).bytes).1

/-- The state after a fault that ends the script. -/
def fail (s : State) (t : Text) : State := (s.complain t).wreck

/-- The state after bytes were written to the output, with a status for whether that went well. -/
def say (s : State) (b : Bytes) : State :=
  match s.send 1 b with
  | (s, true) => s.withStatus 0
  | (s, false) =>
    let name := s.command.getD []
    (s.complain (name ++ ": I/O error")).withStatus 1

/-- The state with a value for a variable; one that is read-only is a fault. -/
def setVar (s : State) (name value : Text) : State :=
  if (s.known? name).any Variable.readOnly then s.fail (name ++ ": is read only")
  else s.put name value

/-- Nothing is on its way out of anything. -/
def running (s : State) : Bool := s.jump.isNone

/-! ### The beginning -/

/-- The variables that every script has. -/
def standardVars : List Variable :=
  ([("OPTIND", "1"), ("PS4", "+ "), ("PS2", "> "), ("PS1", "# "),
    ("PATH", "/usr/local/sbin:/usr/local/bin:/usr/sbin:/usr/bin:/sbin:/bin"),
    ("IFS", " \t\n")] : List (String × String)).map fun (name, value) =>
      ⟨name.toList, some value.toList, false, false⟩

/-- The limits that a script begins with. -/
def standardLimits : List (Char × Limit) :=
  [('s', ⟨some 8388608, none⟩), ('c', ⟨some 0, none⟩), ('l', ⟨some 8388608, some 8388608⟩),
    ('n', ⟨some 1048576, some 1048576⟩), ('r', ⟨some 0, some 0⟩)]

/-- The state that a script begins with in a process. -/
def start (p : Process) (self : Text) (args : List Text) (options : List Char) : State :=
  let inherited := (p.env.entries.filterMap ProcessEnv.split?).map fun (name, value) =>
    (Bytes.numbered name, Bytes.numbered value)
  let vars := inherited.foldl
    (fun vs (name, value) =>
      if Word.isName name then
        changeIn name
          (fun v =>
            { v with
              value := some (if name = "IFS".toList then " \t\n" else value)
              exported := true }) vs
      else vs)
    standardVars
  let vars := changeIn "PPID" (fun v => { v with value := some (Integer.digits p.parent) }) vars
  let vars := changeIn "PWD"
    (fun v => { v with value := some p.workingDir, exported := true }) vars
  { vars
    hidden := []
    functions := []
    aliases := []
    self
    args
    status := 0
    files := p.files
    channels := match p.outlet with
      | .closed => [(0, 0), (2, 2)]
      | _ => [(0, 0), (1, 1), (2, 2)]
    streams :=
      [(0, .source p.input p.position), (1, .channel .output p.outlet), (2, .channel .errors .free)]
    nameless := []
    written := []
    later := []
    pending := []
    ended := []
    numbers := p.numbers
    options
    traps := []
    deaf := p.ignored
    guarded := false
    substituted := none
    directory := p.workingDir
    line := 1
    command := none
    jump := none
    loops := 0
    calls := 0
    depth := 0
    limits := standardLimits
    jobs := []
    lastJob := none
    optionAt := 0
    found := []
    number := p.number
    parent := p.parent
    main := p.number
    last := false
    above := []
    ahead := none
    mail := [] }

end State

end AliasShell.Script
