/-
Running a script.

A state goes through the commands one after another until a jump takes it out of them.  `step` runs
one command and leaves the running of those in it to a parameter; `exec` is `step` with itself for
that parameter, as often as its number says.  A script that is deeper than that comes to the end
that it would come to where memory runs out.
-/
import AliasShell.Machine.Dates.Basic
import AliasShell.Machine.Script.Channels
import AliasShell.Machine.Script.Own.Table

namespace AliasShell.Script

namespace State

/-- Ends a script that is to end with the first failure, if this is one. -/
def checked (s : State) : State :=
  if s.running && s.status != 0 && s.has 'e' && !s.guarded then s.stop (.exited (s.status % 256))
  else s

/-- Shows a command before it runs. -/
def trace (sub : Script → State → State) (channels : List (Nat × Nat)) (words : List Text)
    (s : State) : State :=
  if s.has 'x' then
    let mark := match s.var? "PS4" with
      | some t => t
      | none => []
    let inside := { s with channels, options := s.options.filter (· != 'x') }
    let source := Source.ofText ("\"" ++ mark ++ "\"")
    let (inside, mark) := match readWord (Inner.nested [] 1) source with
      | .ok (w, _) => inside.expandText sub w
      | .error _ => (inside, mark)
    let after := (inside.send 2 (mark ++ Text.unwords words ++ ['\n']).bytes).1
    { after with channels := s.channels, options := s.options }
  else s

end State

namespace Runner

/-! ### Programs -/

/-- The status of a program that did not start. -/
def failureStatus : SysError → Nat
  | .notFound | .notDirectory | .nameTooLong | .tooManyLinks => 127
  | _ => 126

/-- What is said of a program that did not start. -/
def failureText (name : Text) : SysError → Text
  | .notFound | .notDirectory => name ++ ": not found"
  | e => name ++ ": " ++ e.reason

/-- Starts the first of the program files at some paths that can be started. -/
def startFirst (r : Runner) (files : Files) (p : Process) :
    SysError → List Text → Except SysError Aftermath
  | e, [] => .error e
  | e, path :: paths =>
    let isText := Search.beginsAsText ((files.read path).toOption.getD [])
    match (if isText then Search.startLoosely else id) r.start path p with
    | .ok a => .ok a
    | .error f =>
      startFirst r files p (if f = .notFound ∨ f = .notDirectory then e else f) paths

/-- How long it takes to start a program. -/
def startTime : Moment := 1000

/-- The process that a program is in; one that takes the place of the script takes its number. -/
def process (name : Text) (args : List Text) (s : State) : Process :=
  let (input, position) := s.readable 0
  { name
    args
    env := s.environment
    files := s.files
    input
    position
    outlet := s.outlet
    ignored := s.deaf ++ (s.traps.filter fun trap => trap.2.isEmpty).map (·.1)
    number := if s.last then s.number else s.numbers + 1
    parent := if s.last then s.parent else s.number
    numbers := s.numbers + 1 }

/-- The state after a program has run. -/
def after (r : Runner) (a : Aftermath) (s : State) : State :=
  let s := (s.adopt { a.files with now := a.files.now + startTime }).leaveUnread 0 a.input
  let late := a.later.filterMap fun e =>
    let channel := match e.channel with
      | .output => 1
      | .errors => 2
    (s.channels.lookup channel).map fun n => (⟨e.time, s.number, n, e.data⟩ : Late)
  let s := r.settle { s with
    numbers := a.numbers
    later := late.reverse ++ s.later
    mail := s.mail ++ a.signals }
  a.transcript.foldl
    (fun s (c, b) =>
      match c with
      | .output => (s.send 1 b).1
      | .errors => (s.send 2 b).1)
    s

/-- Starts a program and waits for it; how it ended, if it started. -/
def program (r : Runner) (name : Text) (args : List Text) (s : State) : State × Option Ending :=
  let paths := if name.contains '/' then [name]
    else (s.candidates name).dropWhile fun path => !s.isProgram path
  match paths with
  | [] => ((s.complain (s.missing name)).withStatus 127, none)
  | path :: _ =>
    let s := s.remember name path
    match r.startFirst s.files (process name args s) .notFound paths with
    | .error e => ((s.complain (failureText name e)).withStatus (failureStatus e), none)
    | .ok a => ((r.after a s).withStatus a.ending.status, some a.ending)

/-- Runs a program as a command. -/
def call (r : Runner) (name : Text) (args : List Text) (s : State) : State :=
  match r.program name args s with
  | (after, ending) =>
    if s.last then
      match ending with
      | some e => if after.running then after.stop e else after
      | none => after
    else r.readMail (after.mourn ending)

/-- Runs a program in place of the script. -/
def replace (r : Runner) (name : Text) (args : List Text) (s : State) : State :=
  let (s, ending) := r.program name args s
  let s := { s with traps := [] }
  match ending with
  | some (.exited _) | none => s.stop (.exited s.status)
  | some (.killed n) =>
    s.stop (.killed n)

/-! ### Functions -/

/-- How many functions may run within each other. -/
def functionLimit : Nat := 1000

/-- The fault of a function that is one too many. -/
def tooDeep : Text :=
  "Maximum function recursion depth (" ++ Integer.digits functionLimit ++ ") reached"

/-- Runs something that may have variables of its own, which are gone when it has run. -/
def inFrame (run : State → State) (s : State) : State :=
  let after := run { s with hidden := [] :: s.hidden }
  let frame := after.hidden.headD []
  { frame.foldl (fun s (name, old) => s.restore name old) after with hidden := s.hidden }

/-- Runs a function that is not one too many. -/
def functionBody (r : Runner) (body : Script) (args : List Text) (s : State) : State :=
  let after := inFrame (r.script body)
    { s with last := false, args, calls := s.calls + 1, loops := 0, optionAt := 0 }
  { after with
    args := s.args
    last := s.last
    calls := s.calls
    loops := s.loops
    optionAt := s.optionAt
    depth := after.depth - 1
    jump := if after.jump = some .back then none else after.jump }

/-- Runs a function.  One that is too many is counted, and never leaves the count again. -/
def function (r : Runner) (body : Script) (args : List Text) (s : State) : State :=
  let s := { s with depth := s.depth + 1 }
  if functionLimit < s.depth then s.fail tooDeep else r.functionBody body args s

/-! ### Simple commands -/

/-- What a command turns out to be. -/
inductive Action where
  /-- there are only settings -/
  | none
  | function (body : Script)
  | own (name : Text) (rank : Own.Rank) (run : Own)
  | exec (rank : Own.Rank)
  | program

/-- What the words of a command run, with the arguments; `bare` leaves functions out. -/
def actionOf (s : State) : Bool → List Text → Action × List Text
  | _, [] => (.none, [])
  | bare, name :: args =>
    let special := Own.specials.lookup name
    match special, (if bare then Option.none else s.functions.lookup name), Own.ofName? name with
    | some run, _, _ => (.own name (if bare then .plain else .special) run, args)
    | _, some body, _ => (.function body, args)
    | _, _, some (_, run) => (.own name .plain run, args)
    | _, _, _ =>
      if name = Own.execName then (.exec (if bare then .plain else .special), args)
      else if name = Own.commandName then
        match _taken : Own.flags "pvV" args with
        | .error c => (.own name .plain fun _ _ s => Own.refuse s (Own.badOption c), args)
        | .ok (letters, rest) =>
          match rest.head? with
          | none => (.none, [])
          | some target =>
            if letters.contains 'v' then (.own name .plain fun _ _ => Own.mention target, rest)
            else if letters.contains 'V' then
              (.own name .plain fun r _ => Own.describe r [target], rest)
            else actionOf s true rest
      else (.program, name :: args)
termination_by _ words => words.length
decreasing_by
  have := Own.length_le_of_flags _taken
  simp only [List.length_cons] at this ⊢
  omega

/-- Settings in front of such a command stay when it has run. -/
def Action.keepsSettings : Action → Bool
  | .none => true
  | .exec rank | .own _ rank _ => rank = .special
  | _ => false

/-- What goes wrong around such a command ends the script. -/
def Action.isSpecial : Action → Bool
  | .exec rank | .own _ rank _ => rank = .special
  | _ => false

/-- Makes the settings of a command; the last part of the result is their text. -/
def makeSettings (sub : Script → State → State) (exporting : Bool) :
    List (Text × Word) → State → State × List Text
  | [], s => (s, [])
  | (name, w) :: rest, s =>
    let (s, t) := s.expandValue sub w
    if s.running then
      let s := s.setVar name t
      if s.running then
        let s := if exporting then s.change name fun v => { v with exported := true } else s
        let (s, shown) := makeSettings sub exporting rest s
        (s, (name ++ '=' :: t) :: shown)
      else (s, [])
    else (s, [])

/-- Runs a command of the script's own.  What goes wrong in a plain one ends nothing but that. -/
def own (r : Runner) (name : Text) (rank : Own.Rank) (run : Own) (args : List Text) (s : State) :
    State :=
  let run (s : State) : State :=
    { run r args { s with command := some name } with command := s.command }
  match rank with
  | .special => run s
  | .plain =>
    let after := inFrame run s
    r.readMail { after with jump := if after.jump = some .fault then none else after.jump }

/-- Runs what a command turned out to be. -/
def act (r : Runner) (action : Action) (args : List Text) (s : State) : State :=
  match action with
  | .none => s.withStatus (s.substituted.getD 0)
  | .function body => r.function body args s
  | .own name rank run => r.own name rank run args s
  | .exec _ =>
    match args with
    | [] => s.withStatus 0
    | name :: args => r.replace name args { s with command := some Own.execName }
  | .program =>
    match args with
    | [] => s
    | name :: args => r.call name args s

/-- Settings stay whole among the arguments of the command that a word names. -/
def declares (words : List Word) : Bool :=
  let names := words.filterMap Word.plain?
  match names with
  | name :: next :: _ =>
    Own.declarers.contains name || (name == Own.commandName && Own.declarers.contains next)
  | [name] => Own.declarers.contains name
  | [] => false

/-- Runs a command of words: they are expanded, the redirections made, the settings made, and what
the words name is run. -/
def simple (r : Runner) (line : Nat) (settings : List (Text × Word)) (words : List Word)
    (redirects : List Redirect) (s : State) : State :=
  let (s, args) := State.expandWords r.whole (declares words) words
    { s with line, substituted := none }
  if !s.running then s
  else
    let channels := s.channels
    let (action, rest) := actionOf s false args
    let back (s : State) : State := { s with channels }
    match s.redirectAll r.whole redirects with
    | (s, false) =>
      if !s.running then back s
      else if action.isSpecial then (back s).wreck
      else (back s).withStatus 2
    | (s, true) =>
      let keeps := action.keepsSettings
      let exporting := match action with
        | .exec .special => !rest.isEmpty
        | _ => !keeps
      let old := settings.map fun (name, _) => (name, s.known? name)
      let (s, shown) := makeSettings r.whole exporting settings s
      if !s.running then back s
      else
        let s := s.trace r.whole channels (shown ++ args)
        let after := r.act action rest s
        let after :=
          if keeps then after
          else old.reverse.foldl (fun s (name, v) => s.restore name v) after
        match action, rest with
        | .exec _, [] => after
        | _, _ => back after

/-! ### Loops -/

/-- What a body leaves to its loop, and whether the loop goes on. -/
def afterBody (s : State) : State × Bool :=
  match s.jump with
  | none => (s, true)
  | some (.leave (n + 2)) => ({ s with jump := some (.leave (n + 1)) }, false)
  | some (.leave _) => (s.landed, false)
  | some (.again (n + 2)) => ({ s with jump := some (.again (n + 1)) }, false)
  | some (.again _) => (s.landed, true)
  | some _ => (s, false)

/-- How often a body may run. -/
def loopLimit : Nat := 10000000

/-- Runs a body as long as its test has this truth; at most `n` times.  `status` is that of the last
body. -/
def repeatBody (r : Runner) (fails : Bool) (test body : Script) : Nat → Nat → State → State
  | 0, _, s => s.stop (.killed 9)
  | n + 1, status, s =>
    match afterBody (s.asTest (r.script test)) with
    | (s, false) => if s.running then s.withStatus status else s
    | (s, true) =>
      if (s.status == 0) == fails then s.withStatus status
      else
        match afterBody (r.script body s) with
        | (s, true) => repeatBody r fails test body n s.status s
        | (s, false) => s

/-- Runs a body for each item; there is at least one. -/
def eachItem (r : Runner) (name : Text) (body : Script) : List Text → State → State
  | [], s => s
  | item :: items, s =>
    let s := s.setVar name item
    if !s.running then s
    else
      match afterBody (r.script body s) with
      | (s, true) => eachItem r name body items s
      | (s, false) => s

/-- Runs in one more loop. -/
def inLoop (run : State → State) (s : State) : State :=
  let after := run { s with loops := s.loops + 1 }
  { after with loops := s.loops }

/-! ### Choices between patterns -/

/-- One of the patterns fits the subject. -/
def fitsAny (sub : Script → State → State) (subject : Text) : List Word → State → State × Bool
  | [], s => (s, false)
  | w :: ws, s =>
    let (s, gs) := s.expandGlyphs sub w
    if !s.running then (s, false)
    else if (Pattern.ofGlyphs gs).fits subject then (s, true)
    else fitsAny sub subject ws s

/-- Runs the first branch with a pattern that fits the subject. -/
def selectBranch (r : Runner) (subject : Text) : List (List Word × Script) → State → State
  | [], s => s.withStatus 0
  | (patterns, body) :: rest, s =>
    match fitsAny r.whole subject patterns s with
    | (s, true) =>
      match body with
      | .seq [] => s.withStatus 0
      | body => r.script body s
    | (s, false) => if s.running then selectBranch r subject rest s else s

/-! ### Scripts that are left running -/

/-- How long a script sleeps before it does anything else. -/
def firstSleep : Script → Moment
  | .simple _ [] [[.literal _ name], [.literal _ t]] _ =>
    if name = "sleep".toList then (Moment.ofDuration? t).getD 0 else 0
  | .seq (a :: _) | .both a _ | .either a _ | .shielded a => firstSleep a
  | .redirected _ a _ => firstSleep a
  | _ => 0

/-- Leaves a script running. -/
def leaveRunning (a : Script) (s : State) : State :=
  let inside := s.enclosed
  let inside := { inside.connect 0 (.device .null) with
    guarded := false
    last := isLast a
    deaf := 2 :: 3 :: s.deaf }
  let began := s.files.now + State.beginning
  let job : Pending :=
    { time := began + firstSleep a
      script := a
      memory := inside.toMemory
      began
      current := s.files.current
      mask := s.files.mask }
  { s with
    streams := inside.streams
    numbers := inside.numbers
    pending := s.pending ++ [job]
    jobs := (s.freeJob, inside.number) :: s.jobs
    lastJob := some inside.number
    status := 0 }

/-! ### All commands -/

/-- Runs a command that others follow. -/
def test (r : Runner) (a : Script) (s : State) : State :=
  { s.asTest (r.script a) with last := false }

/-- Runs one of the commands that others may follow within themselves. -/
def stepWithin (r : Runner) : Script → State → State
  | .negated a, s =>
    let s := s.asTest (r.script a)
    if s.running then s.withStatus (if s.status = 0 then 1 else 0) else s
  | .pipe as, s => (r.pipe as s).checked
  | .apart a, s => leaveRunning a s
  | .shielded a, s => (r.shielded a s).checked
  | .redirected line a redirects, s =>
    match { s with line }.redirectAll r.whole redirects with
    | (after, false) =>
      let after := { after with channels := s.channels }
      if after.running then (after.withStatus 2).checked else after
    | (after, true) => { r.script a after with channels := s.channels }
  | .choice test yes no, s =>
    let s := s.asTest (r.script test)
    if !s.running then s
    else if s.status = 0 then r.script yes s
    else
      match no with
      | .seq [] => s.withStatus 0
      | no => r.script no s
  | .loop fails test body, s => inLoop (repeatBody r fails test body loopLimit 0) s
  | .each line name items body, s =>
    let s := { s with line }
    let (s, items) := match items with
      | some ws => State.expandWords r.whole false ws s
      | none => (s, s.args)
    if !s.running then s
    else if items.isEmpty then s.withStatus 0
    else inLoop (eachItem r name body items) s
  | .select line subject branches, s =>
    let (s, t) := { s with line }.expandText r.whole subject
    if s.running then selectBranch r t branches s else s
  | .define name body, s =>
    { s with functions := (name, body) :: s.functions.filter (·.1 != name), status := 0 }
  | a, s => r.script a s

/-- Runs one command. -/
def step (r : Runner) : Script → State → State
  | .simple line settings words redirects, s =>
    if s.has 'n' then s else (r.simple line settings words redirects s).checked
  | .seq as, s => r.commands as s
  | .both a b, s =>
    let after := r.test a { s with last := false }
    if after.running && after.status == 0 then r.script b { after with last := s.last } else after
  | .either a b, s =>
    let after := r.test a { s with last := false }
    if after.running && after.status != 0 then r.script b { after with last := s.last } else after
  | a, s =>
    let after := r.stepWithin a { s with last := false }
    { after with last := s.last }

end Runner

/-- How deep scripts may be that run each other. -/
def depthLimit : Nat := 100000

/-- Runs a script that is at most this deep. -/
def exec (start : Starter) : Nat → Script → State → State
  | 0, _, s => s.stop (.killed 11)
  | n + 1, a, s => Runner.step ⟨start, exec start n⟩ a s

end AliasShell.Script
