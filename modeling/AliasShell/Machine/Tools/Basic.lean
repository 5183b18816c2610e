/-
Tools: small programs that come with every system.

What they have in common: letters of options anywhere among the arguments, operands that name files,
and complaints that name the tool.
-/
import AliasShell.Machine.Process
import AliasShell.Machine.Quoting

namespace AliasShell.Tools

/-- What a tool does in a process. -/
abbrev Tool := Process → Aftermath

/-! ### Complaints -/

/-- The line that follows a complaint about how a tool was called. -/
def hint (p : Process) : Channel × Bytes :=
  (.errors, Text.bytes ("Try '" ++ p.name ++ " --help' for more information.\n"))

/-- Ends because of how the tool was called. -/
def misused (p : Process) (code : Int) (t : Text) : Aftermath :=
  p.leave code [p.complaint t, hint p]

/-! ### Options -/

/-- The options of a tool, and its other arguments. -/
structure Asked where
  /-- each letter with its argument, which is empty for one that takes none -/
  options : List (Char × Text)
  operands : List Text
  deriving Repr, DecidableEq

namespace Asked

/-- The option was given. -/
def has (a : Asked) (letter : Char) : Bool := a.options.any (·.1 == letter)

/-- One of the options was given. -/
def hasAny (a : Asked) (letters : Text) : Bool := a.options.any fun o => letters.contains o.1

/-- The argument of the last option of this letter. -/
def value? (a : Asked) (letter : Char) : Option Text :=
  (a.options.reverse.find? (·.1 == letter)).map (·.2)

/-- The arguments of all options of this letter. -/
def values (a : Asked) (letter : Char) : List Text :=
  a.options.filterMap fun o => if o.1 = letter then some o.2 else none

/-- The last of these options that was given. -/
def lastOf (a : Asked) (letters : Text) : Option Char :=
  (a.options.reverse.find? fun o => letters.contains o.1).map (·.1)

end Asked

/-- The letters that a tool knows.  Options that only have long names are kept under letters that no
argument can hold. -/
structure Letters where
  /-- options without an argument -/
  plain : Text
  /-- options with one -/
  valued : Text := []
  /-- options with one that stands right behind them, if there is any -/
  loose : Text := []
  /-- options may follow operands -/
  anywhere : Bool := true
  /-- options by their long names -/
  long : List (String × Char) := []
  /-- what stands behind the name in the first line that says how the tool is used -/
  usage : String := "[OPTION]... [FILE]..."
  /-- the package that the tool belongs to -/
  package : String := "(GNU coreutils) 9.7"

/-- The option that asks how the tool is used, and the one that asks which it is. -/
def helpLetter : Char := 'η'

/-- The option that asks which tool it is. -/
def versionLetter : Char := 'ν'

/-- The long names that a tool knows. -/
def Letters.names (l : Letters) : List (Text × Char) :=
  (l.long ++ [("help", helpLetter), ("version", versionLetter)]).map fun e => (e.1.toList, e.2)

/-- Letters after a `-`, with the arguments that they take. -/
def readLetters (l : Letters) : Text → List Text → Except Text (List (Char × Text) × List Text)
  | [], args => .ok ([], args)
  | c :: cs, args =>
    if l.plain.contains c then
      (readLetters l cs args).map fun (more, rest) => ((c, []) :: more, rest)
    else if l.loose.contains c then .ok ([(c, cs)], args)
    else if l.valued.contains c then
      match cs, args with
      | _ :: _, args => .ok ([(c, cs)], args)
      | [], arg :: rest => .ok ([(c, arg)], rest)
      | [], [] => .error ("option requires an argument -- '" ++ c :: ['\''])
    else .error ("invalid option -- '" ++ c :: ['\''])

/-- The long name that a text begins, if there is one. -/
def longName? (l : Letters) (whole name : Text) : Except Text (Text × Char) :=
  match l.names.find? fun e => e.1 == name with
  | some e => .ok e
  | none =>
    match l.names.filter fun e => name.isPrefixOf e.1 with
    | [] => .error ("unrecognized option '" ++ whole ++ ['\''])
    | [e] => .ok e
    | e :: es =>
      if es.all fun x => x.2 == e.2 then .ok e
      else
        let names := (e :: es).flatMap fun x => " '--".toList ++ x.1 ++ ['\'']
        .error ("option '" ++ whole ++ "' is ambiguous; possibilities:" ++ names)

/-- A long option, with its argument. -/
def readLong (l : Letters) (arg : Text) (args : List Text) :
    Except Text ((Char × Text) × List Text) := do
  let (name, given) : Text × Option Text := match Text.cutFirst (· == '=') (arg.drop 2) with
    | some (name, value) => (name, some value)
    | none => (arg.drop 2, none)
  let (name, c) ← longName? l ("--" ++ arg.drop 2) name
  if l.valued.contains c then
    match given, args with
    | some value, args => return ((c, value), args)
    | none, value :: args => return ((c, value), args)
    | none, [] => throw ("option '--" ++ name ++ "' requires an argument")
  else if l.loose.contains c then return ((c, given.getD []), args)
  else if given.isSome then throw ("option '--" ++ name ++ "' doesn't allow an argument")
  else return ((c, []), args)

/-- The options among arguments; at most `n` are looked at.  Nothing is looked at behind one that
asks what the tool is. -/
def readAsked (l : Letters) : Nat → List Text → Except Text Asked
  | 0, args => .ok ⟨[], args⟩
  | _, [] => .ok ⟨[], []⟩
  | n + 1, arg :: args =>
    match arg with
    | ['-', '-'] => .ok ⟨[], args⟩
    | '-' :: '-' :: _ => do
      let (option, rest) ← readLong l arg args
      if option.1 = helpLetter ∨ option.1 = versionLetter then return ⟨[option], rest⟩
      let a ← readAsked l n rest
      return { a with options := option :: a.options }
    | '-' :: c :: cs => do
      let (options, rest) ← readLetters l (c :: cs) args
      let a ← readAsked l n rest
      return { a with options := options ++ a.options }
    | _ =>
      if l.anywhere then
        (readAsked l n args).map fun a => { a with operands := arg :: a.operands }
      else .ok ⟨[], arg :: args⟩

/-- The first line that says how a tool is used. -/
def usageLine (p : Process) (usage : String) : Text := "Usage: " ++ p.name ++ ' ' :: usage.toList

/-- Says what the tool is, if that is asked for. -/
def aboutSelf? (p : Process) (l : Letters) (a : Asked) : Option Aftermath :=
  if a.has helpLetter then some (p.say (usageLine p l.usage ++ ['\n']))
  else if a.has versionLetter then
    let name := ((p.name.cutLast (· == '/')).map (·.2)).getD p.name
    some (p.say (name ++ ' ' :: l.package.toList ++ ['\n']))
  else none

/-- A tool that takes options; `code` is that of a call with others. -/
def taking (l : Letters) (code : Int) (run : Process → Asked → Aftermath) : Tool := fun p =>
  match readAsked l p.args.length p.args with
  | .ok a => (aboutSelf? p l a).getD (run p a)
  | .error t => misused p code t

/-! ### Words that stand for a choice -/

/-- The lines that name the words of a choice; words for the same thing share a line. -/
def wordLines {α : Type} [BEq α] : List (Text × α) → List Text
  | [] => []
  | (t, x) :: more =>
    match more, wordLines more with
    | (_, y) :: _, line :: lines =>
      if x == y then (Quoting.cited t ++ ", ".toList ++ line) :: lines
      else Quoting.cited t :: line :: lines
    | _, lines => Quoting.cited t :: lines

/-- What a word or the beginning of one stands for among the arguments of a long option. -/
def choose {α : Type} [BEq α] (p : Process) (option : String) (words : List (String × α))
    (t : Text) : Except Aftermath α :=
  let words := words.map fun e => (e.1.toList, e.2)
  let refused (what : String) : Except Aftermath α :=
    .error (p.leave 1
      [p.complaint (what.toList ++ " argument ".toList ++ Quoting.cited t ++ " for '--".toList ++
        option.toList ++ ['\'']),
        (.errors, Text.bytes ("Valid arguments are:\n".toList ++
          (wordLines words).flatMap fun line => "  - ".toList ++ line ++ ['\n'])), hint p])
  match words.find? fun e => e.1 == t with
  | some e => .ok e.2
  | none =>
    match words.filter fun e => t.isPrefixOf e.1 with
    | [] => refused "invalid"
    | e :: es => if es.all fun x => x.2 == e.2 then .ok e.2 else refused "ambiguous"

/-- What the argument of the last option of a letter stands for, if there is one. -/
def choose? {α : Type} [BEq α] (p : Process) (a : Asked) (letter : Char) (option : String)
    (words : List (String × α)) : Except Aftermath (Option α) :=
  match a.value? letter with
  | none => .ok none
  | some t => (choose p option words t).map some

/-- What a computation that may end a tool early comes to. -/
def settle (result : Except Aftermath Aftermath) : Aftermath :=
  match result with
  | .ok a => a
  | .error a => a

/-- Complains and ends a tool early. -/
def failWith {α : Type} (p : Process) (code : Int) (t : Text) : Except Aftermath α :=
  .error (p.refuse code t)

/-- Ends a tool early because of how it was called. -/
def failMisused {α : Type} (p : Process) (code : Int) (t : Text) : Except Aftermath α :=
  .error (misused p code t)

/-! ### Files that operands name -/

/-- The operand stands for the input. -/
def isInput (fs : Files) (name : Text) : Bool := name == ['-'] || fs.isInput name

/-- The contents of a file; of one that has no end as much as may be wanted. -/
def readFile (p : Process) (name : Text) : Except SysError Bytes :=
  if p.files.isInput name then .ok p.input
  else if p.files.isEndless name then .ok (List.replicate p.wanted 0)
  else p.files.read name

/-- What operands stand for, `-` being what is left of the input, and what is left of that after. -/
def contents (p : Process) : List Text → List (Text × Except SysError Bytes) × Bytes
  | [] => ([], p.input)
  | name :: names =>
    if isInput p.files name then
      let (more, rest) := contents { p with input := [] } names
      ((name, .ok p.input) :: more, rest)
    else
      let (more, rest) := contents p names
      ((name, readFile p name) :: more, rest)

/-- The operands, `-` if there are none. -/
def orInput (names : List Text) : List Text := if names.isEmpty then [['-']] else names

/-- Ends with code 1 if anything was complained about, and with 0 otherwise. -/
def conclude (p : Process) (rest : Bytes) (transcript : Transcript) : Aftermath :=
  { p.leave (if transcript.any (·.1 == .errors) then 1 else 0) transcript with input := rest }

/-- Runs over the contents of operands; each is written by `show`, or complained about. -/
def overContents (p : Process) (names : List Text) (fault : Text → SysError → Text)
    (shown : Bytes → Bytes) : Aftermath :=
  let (found, rest) := contents p (orInput names)
  conclude p rest (found.map fun (name, content) =>
    match content with
    | .ok b => (.output, shown b)
    | .error e => p.complaint (fault name e))

/-- What a tool leaves behind that complains while what it writes has yet to be sent off. -/
def holdingBack (a : Aftermath) : Aftermath :=
  { a with
    transcript := a.transcript.filter (·.1 == .errors) ++ [(.output, a.transcript.on .output)] }

/-- What is left of an input of which so many bytes were used.  A program reads in blocks, and what
it has read too much can only be given back where the input is a file. -/
def unusedOf (block : Nat) (p : Process) (used : Nat) : Bytes :=
  match p.position with
  | some _ => p.input.drop used
  | none => p.input.drop ((used + (block - 1)) / block * block)

/-- What is left of an input of which so many bytes were used, in blocks of the usual size. -/
def unused (p : Process) (used : Nat) : Bytes := unusedOf 8192 p used

/-- The usual complaint about a file. -/
def fileFault (name : Text) (e : SysError) : Text := Quoting.ifNeeded name ++ ": " ++ e.reason

/-! ### Lines -/

/-- Bytes with zeros and line ends exchanged. -/
def swapEnds (b : Bytes) : Bytes := b.map fun x => if x = 0 then 10 else if x = 10 then 0 else x

/-- What is done to bytes whose lines end in zeros. -/
def onZeros (zeros : Bool) (f : Bytes → Bytes) (b : Bytes) : Bytes :=
  if zeros then swapEnds (f (swapEnds b)) else f b

/-- The lines of bytes, which may end in zeros. -/
def linesOf (zeros : Bool) (b : Bytes) : List Bytes :=
  if zeros then (swapEnds b).lines.map swapEnds else b.lines

/-- The byte that lines end in. -/
def lineEnd (zeros : Bool) : UInt8 := if zeros then 0 else 10

/-- Lines with their ends. -/
def unlines (lines : List Bytes) : Bytes := lines.flatMap (· ++ [10])

/-- A number that an argument is, with no sign. -/
def count? (t : Text) : Option Nat :=
  if !t.isEmpty && t.all Char.isDigit then some (Integer.ofDigits t) else none

/-- The number in some bounds that an argument is, or a complaint that begins with what it is for.
An argument that may not be less than 0 has no `-`. -/
def bounded (what : String) (signed : Bool) (least most : Int) (t : Text) : Except Text Int :=
  let refused (reason : String) : Except Text Int :=
    .error (what.toList ++ ": ".toList ++ Quoting.cited t ++
      if reason.isEmpty then [] else ": ".toList ++ reason.toList)
  let large := "Value too large for defined data type"
  let (isNegative, ds) : Bool × Text := match t.dropWhile fun c => c == ' ' || c == '\t' with
    | '-' :: ds => (true, ds)
    | '+' :: ds => (false, ds)
    | ds => (false, ds)
  if ds.isEmpty || !ds.all Char.isDigit || (isNegative && !signed) then refused ""
  else
    let size : Int := Integer.ofDigits ds
    let n : Int := if isNegative then -size else size
    if least ≤ n ∧ n ≤ most then .ok n
    else if n < -1073741824 ∨ 1073741823 < n then refused large
    else refused "Numerical result out of range"

/-- The greatest number that a tool counts to. -/
def mostCount : Int := 9223372036854775807

/-- The letters for powers of a thousand, or of 1024. -/
def powers : Text := "KMGTPEZYRQ"

/-- What letters behind a number multiply it by. -/
def multiplier? (t : Text) : Option Nat :=
  match t with
  | [] => some 1
  | ['b'] => some 512
  | ['c'] => some 1
  | ['w'] => some 2
  | c :: unit =>
    let base? : Option Nat :=
      if unit = [] ∨ unit = "iB".toList then some 1024
      else if unit = ['B'] ∨ unit = ['D'] then some 1000
      else none
    let n := powers.findIdx (· == c.toUpper)
    if n < powers.length then base?.map fun base => Nat.pow base (n + 1) else none

/-- A number with letters behind it that multiply it. -/
def size? (t : Text) : Option Nat :=
  let ds := t.takeWhile Char.isDigit
  if ds.isEmpty then none
  else (multiplier? (t.drop ds.length)).map fun n => Integer.ofDigits ds * n

end AliasShell.Tools
