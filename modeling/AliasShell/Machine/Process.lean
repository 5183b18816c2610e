/-
A program that runs: what it finds when it starts, and what it leaves behind.

A program is alone while it runs, so it is a function from the one to the other.  What it writes to
its two channels is kept as one sequence, since both may lead to the same place.

All texts of the machine are runs of bytes, each byte written as the character of its number.
-/
import AliasShell.Environment.Entries
import AliasShell.Launch.Request
import AliasShell.Machine.Files.Change
import AliasShell.Number.Integer

namespace AliasShell

/-- The channels that a program writes to. -/
inductive Channel where
  | output
  | errors
  deriving Repr, DecidableEq

/-- What was written where, in order. -/
abbrev Transcript := List (Channel × Bytes)

/-- Everything that went to one channel. -/
def Transcript.on (t : Transcript) (c : Channel) : Bytes :=
  (t.filter (·.1 == c)).flatMap (·.2)

/-- What becomes of what is written to an output. -/
inductive Outlet where
  /-- it is taken -/
  | free
  /-- it leads nowhere -/
  | closed
  /-- there is no room for anything -/
  | full
  /-- whoever reads it stops after this many bytes -/
  | upTo (n : Nat)
  deriving Repr, DecidableEq

/-- What a program finds; `files.current` is its directory. -/
structure Process where
  /-- What it was called. -/
  name : Text
  args : List Text
  env : ProcessEnv
  files : Files
  /-- What it can read from its input. -/
  input : Bytes
  /-- Where in a file the input begins; an input that is no file is gone once it was read. -/
  position : Option Nat := none
  outlet : Outlet := .free
  /-- The signals that do nothing to it. -/
  ignored : List Nat := []
  /-- Its number, and that of the process that started it. -/
  number : Nat := 4711
  parent : Nat := 4710
  /-- The last number that was given to a process. -/
  numbers : Nat := 4711
  deriving Repr, DecidableEq

/-- What was written at some time after the program had ended, by something that it left running. -/
structure Echo where
  time : Moment
  channel : Channel
  data : Bytes
  deriving Repr, DecidableEq

/-- What a program leaves behind.  The time of the files is that of its end. -/
structure Aftermath where
  ending : Ending
  files : Files
  /-- What it has left of its input. -/
  input : Bytes
  transcript : Transcript
  numbers : Nat
  later : List Echo := []
  /-- The signals that it has sent to processes around it, with their numbers. -/
  signals : List (Nat × Nat) := []
  deriving Repr, DecidableEq

/-- Starts the program file at a path. -/
abbrev Starter := Text → Process → Except SysError Aftermath

/-- How an ending looks to a program that waited for it. -/
def Ending.status : Ending → Nat
  | .exited code => (code % 256).toNat
  | .killed signal => 128 + signal

namespace Process

/-- Ends with a code, having written this and changed nothing. -/
def leave (p : Process) (code : Int) (transcript : Transcript) : Aftermath where
  ending := .exited code
  files := p.files
  input := p.input
  transcript
  numbers := p.numbers

/-- Ends well, having written `t` and changed nothing. -/
def say (p : Process) (t : Text) : Aftermath := p.leave 0 [(.output, t.bytes)]

/-- Ends with a code, and with nothing else to show. -/
def quit (p : Process) (code : Int) : Aftermath := p.leave code []

/-- A complaint of the program. -/
def complaint (p : Process) (t : Text) : Channel × Bytes :=
  (.errors, (p.name ++ ": " ++ t ++ ['\n']).bytes)

/-- Ends with a code and a complaint. -/
def refuse (p : Process) (code : Int) (t : Text) : Aftermath := p.leave code [p.complaint t]

/-- The directory of a process. -/
def directory (p : Process) : Text := Path.ofLocation p.files.current

/-- The value of a variable. -/
def var? (p : Process) (name : Text) : Option Text :=
  (p.env.find? name.bytes).map Bytes.numbered

/-- The path that a process calls its directory by: what `PWD` says, if that is so. -/
def workingDir (p : Process) : Text :=
  match p.var? "PWD" with
  | some path =>
    if Path.isAbsolute path ∧ (p.files.locate path).toOption = some p.files.current then path
    else p.directory
  | none => p.directory

/-- How many bytes an output without an end is cut after that somebody reads to its end. -/
def endless : Nat := 1000000

/-- How many bytes of an output may be wanted. -/
def wanted (p : Process) : Nat :=
  match p.outlet with
  | .upTo n => n + 1
  | _ => endless

/-- What is left of an aftermath where the output may not take everything: the program is ended by a
signal when nobody reads any more, and complains of an output that takes nothing. -/
def limited (p : Process) (fault : Outlet → Text) (code : Int) (a : Aftermath) : Aftermath :=
  let out := a.transcript.on .output
  match p.outlet with
  | .free => a
  | .upTo n =>
    if out.length ≤ n then a
    else
      let errors := a.transcript.filter (·.1 == .errors)
      { a with ending := .killed 13, transcript := (.output, out.take n) :: errors }
  | outlet =>
    if out.isEmpty then a
    else
      { a with
        ending := match a.ending with
          | .exited _ => .exited code
          | e => e
        transcript := a.transcript.filter (·.1 == .errors) ++ [p.complaint (fault outlet)] }

end Process

end AliasShell
