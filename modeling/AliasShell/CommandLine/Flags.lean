/-
The options that the shell is started with.

Arguments are read from left to right.  An option with a value takes it from its own argument or
from the next one; a value of its own argument is settled at once, one of the next argument waits
until another option is met or the arguments end.  That decides which of two faults is reported: an
unknown argument is met while a faulty value may still be waiting.

Two faults can only be seen at the end, when all options are known: those of options that exclude
each other.
-/
import AliasShell.Text.Basic

namespace AliasShell

/-- How the shell is started. -/
structure Flags where
  /-- The startup file to run instead of the one in the home. -/
  config : Option Text
  /-- No startup file is run. -/
  noRc : Bool
  /-- The history file to use instead of the one in the home. -/
  history : Option Text
  /-- The line to run instead of reading lines. -/
  command : Option Text
  /-- Neither failures nor the banner are shown. -/
  quiet : Bool
  /-- Everything is logged. -/
  debug : Bool
  deriving Repr, DecidableEq

/-- Why arguments do not start a shell. -/
inductive Refusal where
  /-- there is no such option, and an argument that is no option has no place -/
  | unknownArgument
  /-- a value is missing, or a path is empty -/
  | invalidValue
  /-- a value for an option that takes none -/
  | tooManyValues
  /-- an option twice, or two that exclude each other -/
  | conflict
  /-- the help is asked for -/
  | help
  /-- the version is asked for -/
  | version
  deriving Repr, DecidableEq

namespace Flags

/-- The name and the version of the program. -/
def versionText : Text := "dlsh 0.1.0"

/-- The lines of the help. -/
def helpLines : List Text :=
  ["A small interactive command shell with recursive aliases",
    "",
    "Usage: dlsh [OPTIONS]",
    "",
    "Options:",
    "  -c, --config <PATH>   Startup file to run instead of ~/.dlshrc",
    "      --no-rc           Skip the startup file entirely",
    "      --history <PATH>  History file to use instead of ~/.dlsh_history",
    "  -C, --command <LINE>  Run a single line and exit",
    "  -q, --quiet           Suppress error reports and the banner",
    "  -d, --debug           Enable debug logging",
    "  -h, --help            Print help",
    "  -V, --version         Print version"]

/-- The help. -/
def helpText : Text := helpLines.flatMap (· ++ ['\n'])

end Flags

/-- What a refusal shows on the output channel. -/
def Refusal.shown? : Refusal → Option Text
  | .help => some Flags.helpText
  | .version => some (Flags.versionText ++ ['\n'])
  | _ => none

namespace Flags

/-- No option given. -/
def initial : Flags := ⟨none, false, none, none, false, false⟩

/-- The level from which on messages are logged. -/
def logLevel (f : Flags) : Text :=
  if f.debug then "debug" else if f.quiet then "error" else "warn"

/-! ### The options -/

/-- Options that are given or not. -/
inductive Switch where
  | noRc
  | quiet
  | debug
  | help
  | version
  deriving Repr, DecidableEq

/-- Options with a value. -/
inductive Setting where
  | config
  | history
  | command
  deriving Repr, DecidableEq

/-- An option of either kind. -/
inductive Opt where
  | switch (s : Switch)
  | setting (s : Setting)
  deriving Repr, DecidableEq

/-- The options by their long names. -/
def longNames : List (Text × Opt) :=
  [("config", .setting .config), ("no-rc", .switch .noRc), ("history", .setting .history),
    ("command", .setting .command), ("quiet", .switch .quiet), ("debug", .switch .debug),
    ("help", .switch .help), ("version", .switch .version)]

/-- The options by their letters. -/
def letters : List (Char × Opt) :=
  [('c', .setting .config), ('C', .setting .command), ('q', .switch .quiet),
    ('d', .switch .debug), ('h', .switch .help), ('V', .switch .version)]

/-- The value of a setting. -/
def value? (f : Flags) : Setting → Option Text
  | .config => f.config
  | .history => f.history
  | .command => f.command

/-- The flags with a value for a setting. -/
def withValue (f : Flags) (v : Text) : Setting → Flags
  | .config => { f with config := some v }
  | .history => { f with history := some v }
  | .command => { f with command := some v }

/-- The setting is a path, which cannot be empty. -/
def Setting.isPath : Setting → Bool
  | .command => false
  | _ => true

/-! ### Reading -/

/-- The arguments read so far. -/
structure Reading where
  flags : Flags
  /-- A setting whose value the next argument is, or was. -/
  waiting : Option (Setting × Option Text)
  /-- A lone `--` was met, after which no option follows. -/
  closed : Bool
  deriving Repr, DecidableEq

namespace Reading

/-- Nothing read yet. -/
def start : Reading := ⟨.initial, none, false⟩

/-- Gives a setting its value. -/
def store (r : Reading) (s : Setting) (v : Text) : Except Refusal Reading :=
  if (r.flags.value? s).isSome then .error .conflict
  else if s.isPath && v.isEmpty then .error .invalidValue
  else .ok { r with flags := r.flags.withValue v s }

/-- Gives the waiting setting its value. -/
def settle (r : Reading) : Except Refusal Reading :=
  match r.waiting with
  | none => .ok r
  | some (_, none) => .error .invalidValue
  | some (s, some v) => { r with waiting := none }.store s v

/-- Lets a setting wait for its value. -/
def await (r : Reading) (s : Setting) : Except Refusal Reading := do
  let r ← r.settle
  return { r with waiting := some (s, none) }

/-- Gives a setting a value that stands with it. -/
def assign (r : Reading) (s : Setting) (v : Text) : Except Refusal Reading := do
  let r ← r.settle
  r.store s v

/-- Raises a switch, which can be done once. -/
def raise (r : Reading) (s : Switch) : Except Refusal Reading := do
  let r ← r.settle
  let f := r.flags
  let once (raised : Bool) (f : Flags) : Except Refusal Reading :=
    if raised then .error .conflict else .ok { r with flags := f }
  match s with
  | .noRc => once f.noRc { f with noRc := true }
  | .quiet => once f.quiet { f with quiet := true }
  | .debug => once f.debug { f with debug := true }
  | .help => .error .help
  | .version => .error .version

/-- Reads a long option, given what follows its `--`. -/
def readLong (r : Reading) (t : Text) : Except Refusal Reading :=
  let (name, v?) :=
    match t.cutFirst (· == '=') with
    | some (name, v) => (name, some v)
    | none => (t, none)
  match longNames.lookup name, v? with
  | none, _ => .error .unknownArgument
  | some (.setting s), some v => r.assign s v
  | some (.setting s), none => r.await s
  | some (.switch _), some _ => .error .tooManyValues
  | some (.switch s), none => r.raise s

/-- Reads the letters after a single `-`.  What follows a setting is its value, behind an optional
`=`. -/
def readLetters : Text → Reading → Except Refusal Reading
  | [], r => .ok r
  | c :: cs, r =>
    match letters.lookup c with
    | none => .error .unknownArgument
    | some (.switch s) =>
      match r.raise s with
      | .ok r => readLetters cs r
      | .error e => .error e
    | some (.setting s) =>
      match cs with
      | [] => r.await s
      | '=' :: v => r.assign s v
      | v => r.assign s v

/-- Reads an argument that is no option. -/
def readPlain (r : Reading) (w : Text) : Except Refusal Reading :=
  match r.waiting with
  | some (s, none) => .ok { r with waiting := some (s, some w) }
  | _ => .error .unknownArgument

/-- Reads one argument. -/
def read (r : Reading) (w : Text) : Except Refusal Reading :=
  if r.closed then .error .unknownArgument
  else
    match w with
    | ['-', '-'] => .ok { r with closed := true }
    | '-' :: '-' :: t => r.readLong t
    | '-' :: c :: cs => readLetters (c :: cs) r
    | _ => r.readPlain w

end Reading

/-- Two options exclude each other. -/
def clashing (f : Flags) : Bool := f.quiet && f.debug || f.noRc && f.config.isSome

/-- Reads the arguments of the program. -/
def ofArgs (args : List Text) : Except Refusal Flags := do
  let r ← args.foldlM Reading.read Reading.start
  let r ← r.settle
  if r.flags.clashing then throw .conflict else return r.flags

end Flags

end AliasShell
