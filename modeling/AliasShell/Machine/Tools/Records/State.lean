/-
What a running program over records knows: its variables and tables, the record and its fields, and
what it reads from and writes to.

A record is cut into fields when one is asked for, and put together again when it is asked for
itself. What is written stays with the stream until that is emptied; a command that is written to
runs when its stream is closed.
-/
import AliasShell.Machine.Search
import AliasShell.Machine.Tools.Basic
import AliasShell.Machine.Tools.Records.Fields
import AliasShell.Machine.Tools.Records.Lexeme
import AliasShell.Machine.Tools.Records.Syntax
import AliasShell.Machine.Tools.Records.Table

namespace AliasShell.Tools.Records

/-! ### Knowledge -/

/-- What a parameter of a function holds. -/
inductive Slot where
  | value (v : Value)
  | table (name : Text)
  /-- nothing was done with it yet; if it is used as a table, it is the one of this name -/
  | untold (name : Text)

/-- Where a stream leads. -/
inductive Sink where
  | output
  | errors
  | file
  | command
  deriving Repr, DecidableEq

/-- A stream that is written to. -/
structure Stream where
  name : Text
  sink : Sink
  /-- what is kept, the last of it first -/
  kept : List Text := []

/-- Something that is read from. -/
structure Source where
  name : Text
  isCommand : Bool
  rest : Text
  /-- how a command has ended -/
  status : Nat := 0

/-- Where the records of the input come from. -/
inductive Origin where
  /-- the operand that is to be looked at next -/
  | between (next : Nat)
  /-- what is left of one, which may be the input, and the operand after it -/
  | within (rest : Text) (isInput : Bool) (next : Nat)
  | done

/-- What a program knows. -/
structure State where
  files : Files
  /-- what is left of the input -/
  input : Bytes
  /-- how many bytes of the input were taken to read records from -/
  taken : Option Nat := none
  /-- what was written, the last of it first -/
  written : List (Channel × Bytes) := []
  values : Std.HashMap Text Value := {}
  tables : Std.HashMap Text Table := {}
  slots : Array Slot := #[]
  /-- how many tables of functions there were -/
  made : Nat := 0
  record : Text := []
  fields : Array Value := #[]
  isCut : Bool := true
  /-- the fields have changed and the record has not -/
  isStale : Bool := false
  /-- streams, the one used last first -/
  streams : List Stream :=
    [⟨"/dev/stdout".toList, .output, []⟩, ⟨"/dev/stderr".toList, .errors, []⟩]
  sources : List Source := []
  origin : Origin := .between 1
  /-- some operand was read, or the input in place of operands -/
  hasRead : Bool := false
  /-- the ranges of records that are open -/
  ranges : List Nat := []
  matchers : Std.HashMap Text Matcher := {}
  seed : Nat := 1
  code : Int := 0

/-- Why a program does not just go on. -/
inductive Stop where
  | next
  | nextFile
  | exit
  | breakOff
  | goOn
  | giveBack (v : Value)
  /-- it gives up with complaints -/
  | fault (ts : List Text)

/-- What is done in a state. -/
abbrev Act := EStateM Stop State

/-- What a program runs in. -/
structure Host where
  process : Process
  start : Starter
  program : Program

/-! ### Faults -/

/-- Gives up with a complaint. -/
def fail {α : Type} (t : Text) : Act α := throw (.fault [t])

/-- The value of a variable, as it was set. -/
def stored (name : String) : Act Value := do
  return ((← get).values[name.toList]?).getD .unset

/-- The format of numbers that become texts. -/
def conversion : Act Text := do
  match ← stored "CONVFMT" with
  | .text t => return t
  | v => return Value.shown "%.6g".toList v

/-- A value as a text. -/
def textOf (v : Value) : Act Text := do
  match v with
  | .text t => return t
  | .numeral t _ => return t
  | .unset => return []
  | .number _ => return Value.shown (← conversion) v

/-- The text of a variable. -/
def storedText (name : String) : Act Text := do textOf (← stored name)

/-- Gives up while the program runs. -/
def failRunning {α : Type} (t : Text) : Act α := do
  let number (name : String) : Act Text := do storedText name
  fail ("run time error: ".toList ++ t ++ "\n\tFILENAME=\"".toList ++ (← storedText "FILENAME") ++
    "\" FNR=".toList ++ (← number "FNR") ++ " NR=".toList ++ (← number "NR"))

/-! ### Regular expressions -/

/-- What is wrong with a text that is no regular expression. -/
def regexReason : Regex.Fault → Text
  | .opening => "missing ')'"
  | .closing => "missing '('"
  | .brackets => "bad class -- [], [^] or ["
  | .nothing => "bad class -- [], [^] or ["
  | .preceding => "missing operand"
  | _ => "syntax error"

/-- The regular expression that a text is, ready to be searched with. -/
def matcher (t : Text) : Act Matcher := do
  match (← get).matchers[t]? with
  | some m => return m
  | none =>
    match Regex.read .fields t with
    | .error e =>
      failRunning
        ("regular expression compile failed (".toList ++ regexReason e ++ ")\n".toList ++ t)
    | .ok r =>
      let m := Matcher.ofRegex false false false r
      modify fun s => { s with matchers := s.matchers.insert t m }
      return m

/-- The separator that a text is. -/
def separator (t : Text) : Act Separator := do
  match t with
  | [] => return .nothing
  | [' '] => return .blanks
  | [c] => return .char c
  | t => return .regex (← matcher t)

/-! ### The record and its fields -/

/-- Another record. -/
def setRecord (t : Text) : Act Unit :=
  modify fun s => { s with record := t, isCut := false, isStale := false }

/-- Cuts the record into fields, if that was not done. -/
def cut : Act Unit := do
  if (← get).isCut then return
  let fs ← storedText "FS"
  let t := (← get).record
  let pieces := (← separator fs).fields t
  modify fun s => { s with fields := (pieces.map Value.ofOutside).toArray, isCut := true }

/-- Puts the record together, if its fields have changed. -/
def join : Act Unit := do
  if !(← get).isStale then return
  let ofs ← storedText "OFS"
  let format ← conversion
  modify fun s =>
    { s with
      record := ofs.intercalate (s.fields.toList.map (Value.shown format))
      isStale := false }

/-- A field; the one of the number 0 is the record. -/
def field (n : Nat) : Act Value := do
  if n = 0 then
    join
    return Value.ofOutside (← get).record
  else
    cut
    return (← get).fields.getD (n - 1) .unset

/-- Makes so many fields of those that there are. -/
def setCount (n : Nat) : Act Unit := do
  cut
  modify fun s =>
    let kept := s.fields.extract 0 n
    { s with
      fields := kept ++ Array.replicate (n - kept.size) (.text [])
      isStale := true }

/-- Another value for a field. -/
def setField (n : Nat) (v : Value) : Act Unit := do
  if n = 0 then setRecord (← textOf v)
  else
    cut
    if (← get).fields.size < n then setCount n
    modify fun s => { s with fields := s.fields.set! (n - 1) v, isStale := true }

/-! ### Variables -/

/-- The table of a variable. -/
def tableOf (v : Var) : Act Text := do
  match v with
  | .global name => return name
  | .param i =>
    match (← get).slots[i]? with
    | some (.table name) => return name
    | some (.untold name) =>
      modify fun s => { s with slots := s.slots.set! i (.table name) }
      return name
    | _ => failRunning "scalar used as an array".toList

/-- The value of a variable. -/
def valueOf (v : Var) : Act Value := do
  match v with
  | .param i =>
    match (← get).slots[i]? with
    | some (.value x) => return x
    | _ => return .unset
  | .global name =>
    if name = "NF".toList then
      cut
      return Value.ofNat (← get).fields.size
    else return ((← get).values[name]?).getD .unset

/-- Another value for a variable. -/
def setVar (v : Var) (x : Value) : Act Unit := do
  match v with
  | .param i => modify fun s => { s with slots := s.slots.set! i (.value x) }
  | .global name =>
    if name = "NF".toList then
      if x.float < 0.0 then failRunning "negative value assigned to NF".toList
      setCount (Float.whole x.float).toNat
    else
      if name = "FS".toList ∨ name = "RS".toList then cut
      if name = "OFS".toList then join
      modify fun s => { s with values := s.values.insert name x }

/-- The key that a value is. -/
def keyOf (v : Value) : Act Key := do
  match v with
  | .number x =>
    let n := Float.whole x
    if Float.ofInt n == x then return .whole n else return .name (← textOf v)
  | v => return .name (← textOf v)

/-- The key that several values are. -/
def keyOfAll (vs : List Value) : Act Key := do
  match vs with
  | [v] => keyOf v
  | vs => return .name ((← storedText "SUBSEP").intercalate (← vs.mapM textOf))

/-- A table by its name. -/
def table (name : Text) : Act Table := do return ((← get).tables[name]?).getD {}

/-- Changes a table. -/
def changeTable (name : Text) (change : Table → Table) : Act Unit :=
  modify fun s => { s with tables := s.tables.alter name fun t => some (change (t.getD {})) }

/-! ### Commands -/

/-- Runs a command with an input, and tells how it ended and what it wrote. -/
def command (h : Host) (text : Text) (input : Bytes) : Act (Nat × Transcript) := do
  let s ← get
  let q := { h.process with
    name := Search.interpreter, args := ["-c".toList, text], files := s.files, input
    position := none
    outlet := .free }
  match h.start Search.interpreter q with
  | .error _ => return (127, [])
  | .ok a =>
    modify fun s => { s with files := { a.files with current := s.files.current } }
    let status := match a.ending with
      | .exited code => (code % 256).toNat
      | .killed n => 256 + n
    return (status, a.transcript)

/-- Something was written to a channel. -/
def tell (c : Channel) (b : Bytes) : Act Unit :=
  if b.isEmpty then pure () else modify fun s => { s with written := (c, b) :: s.written }

/-! ### Output -/

/-- What a stream keeps. -/
def Stream.bytes (s : Stream) : Bytes := Text.bytes s.kept.reverse.flatten

/-- Empties a stream that leads to the output or a file. -/
def emptied (st : Stream) : Act Stream := do
  match st.sink with
  | .output =>
    tell .output st.bytes
    return { st with kept := [] }
  | .errors =>
    tell .errors st.bytes
    return { st with kept := [] }
  | .file =>
    if !st.kept.isEmpty then
      modify fun s =>
        { s with files := ((s.files.modify st.name (· ++ st.bytes)).toOption).getD s.files }
    return { st with kept := [] }
  | .command => return st

/-- Empties all streams that lead to the output or files. -/
def emptyAll : Act Unit := do
  let streams ← (← get).streams.mapM emptied
  modify fun s => { s with streams }

/-- Closes a stream, and tells how a command has ended that it leads to. -/
def closed (h : Host) (st : Stream) : Act Nat := do
  let st ← emptied st
  if st.sink = .command then
    let (status, transcript) ← command h st.name st.bytes
    transcript.forM fun (c, b) => tell c b
    return status
  else return 0

/-- The stream of a name, in front of all others. -/
def stream (h : Host) (name : Text) (sink : Sink) (appends : Bool) : Act Unit := do
  let s ← get
  let name := if sink = .file ∧ name = ['-'] then "/dev/stdout".toList else name
  let isIt (st : Stream) : Bool :=
    st.name == name && ((st.sink == .command) == (sink == .command))
  match s.streams.find? isIt with
  | some st => set { s with streams := st :: s.streams.filter fun x => !isIt x }
  | none =>
    if sink = .command then
      emptyAll
      modify fun s => { s with streams := ⟨name, sink, []⟩ :: s.streams }
    else
      match s.files.modify name fun b => if appends then b else [] with
      | .ok files => set { s with files, streams := ⟨name, sink, []⟩ :: s.streams }
      | .error e =>
        let _ := h
        fail ("cannot open \"".toList ++ name ++ "\" for output (".toList ++ e.reason ++ [')'])

/-- Writes to a stream, which is the first one. -/
def writeFirst (t : Text) : Act Unit := do
  match (← get).streams with
  | st :: more =>
    let st := { st with kept := t :: st.kept }
    let st ← if st.sink = .errors then emptied st else pure st
    modify fun s => { s with streams := st :: more }
  | [] => return

/-- Writes to the output. -/
def writeOut (t : Text) : Act Unit :=
  modify fun s =>
    { s with streams := s.streams.map fun st =>
        if st.sink = .output then { st with kept := t :: st.kept } else st }

/-- Closes everything that is written to. -/
def closeAll (h : Host) : Act Unit := do
  let streams := (← get).streams
  modify fun s => { s with streams := [] }
  streams.forM fun st => do
    let _ ← closed h st

/-! ### Input -/

/-- The separator of records. -/
def recordSeparator : Act Separator := do
  match ← storedText "RS" with
  | [c] => return .char c
  | t => separator t

/-- The next record of a source. -/
def nextOf (name : Text) (isCommand : Bool) : Act (Option Text) := do
  let sep ← recordSeparator
  match (← get).sources.find? fun x => x.name == name && x.isCommand == isCommand with
  | none => return none
  | some src =>
    match sep.record src.rest with
    | none => return none
    | some (t, rest) =>
      modify fun s =>
        { s with sources := s.sources.map fun x =>
            if x.name == name && x.isCommand == isCommand then { x with rest } else x }
      return some t

/-- Takes the input to read records from it. -/
def takeInput : Act Text := do
  let s ← get
  set { s with input := [], taken := some s.input.length }
  return Bytes.numbered s.input

/-- One more record was read. -/
def count (names : List String) : Act Unit :=
  names.forM fun name => do
    let n := (← stored name).float
    modify fun s => { s with values := s.values.insert name.toList (.number (n + 1.0)) }

/-- A setting among the operands. -/
def setting? (t : Text) : Option (Text × Text) :=
  match Text.cutFirst (· == '=') t with
  | some (name, value) =>
    if (name.head?).any (fun c => c == '_' || c.isAlpha) &&
        name.all (fun c => c == '_' || c.isAlphanum) then some (name, value)
    else none
  | none => none

/-- Sets a variable to a text from outside. -/
def assignOutside (name t : Text) : Act Unit :=
  setVar (.global name) (Value.ofOutside (Lexeme.unescape t))

/-- The next record of the input; at most `n` operands are looked at. -/
def mainRecord : Nat → Act (Option Text)
  | 0 => return none
  | n + 1 => do
    let s ← get
    match s.origin with
    | .done => return none
    | .within rest isInput next =>
      let sep ← recordSeparator
      match sep.record rest with
      | some (t, rest) =>
        modify fun s => { s with origin := .within rest isInput next }
        return some t
      | none =>
        modify fun s => { s with origin := .between next }
        mainRecord n
    | .between i =>
      let ends := Float.whole (← stored "ARGC").float
      let fromInput (name : Text) (next : Nat) : Act (Option Text) := do
        let t ← takeInput
        setVar (.global "FILENAME".toList) (.text name)
        modify fun s => { s with origin := .within t true next, hasRead := true }
        mainRecord n
      if ends ≤ i then
        if s.hasRead then
          modify fun s => { s with origin := .done }
          return none
        else fromInput ['-'] i
      else
        let arg ← textOf (((← table "ARGV".toList).get? (.whole i)).getD .unset)
        let skip : Act Unit := modify fun s => { s with origin := .between (i + 1) }
        if arg.isEmpty then
          skip
          mainRecord n
        else
          match setting? arg with
          | some (name, value) =>
            assignOutside name value
            skip
            mainRecord n
          | none =>
            if isInput (← get).files arg then
              fromInput arg (i + 1)
            else
              match (← get).files.read arg with
              | .ok b =>
                setVar (.global "FILENAME".toList) (.text arg)
                setVar (.global "FNR".toList) (.number 0.0)
                modify fun s =>
                  { s with origin := .within (Bytes.numbered b) false (i + 1), hasRead := true }
                mainRecord n
              | .error .isDirectory => fail "read error (Is a directory)".toList
              | .error e =>
                fail ("cannot open \"".toList ++ arg ++ "\" (".toList ++ e.reason ++ [')'])

/-- The next record of the input, which is counted. -/
def nextRecord : Act (Option Text) := do
  let operands := (Float.whole (← stored "ARGC").float).toNat
  match ← mainRecord (2 * operands + 4) with
  | none => return none
  | some t =>
    count ["NR", "FNR"]
    return some t

end AliasShell.Tools.Records
