/-
The tool that runs a program with the words of its input for arguments.

Blanks and line ends separate words, and quotes and backslashes shield them; or one byte separates
all words, and nothing is special.  Words are collected until there are enough of them for one run.
-/
import AliasShell.Machine.Tools.Starting

namespace AliasShell.Tools

namespace Supplying

/-! ### Words -/

/-- The words of an input. -/
structure Supply where
  /-- each word, and whether a line ends behind it -/
  words : List (Text × Bool)
  /-- a quote that nothing closes -/
  unclosed : Option Char := none
  deriving Repr, DecidableEq

/-- The supply with a word in front. -/
def Supply.also (s : Supply) (word : Option Text) (ends : Bool) : Supply :=
  match word with
  | some w => { s with words := (w.reverse, ends) :: s.words }
  | none => s

/-- The words of a text.  In whole lines blanks are like other characters once a word has begun;
`quote` is the one that has to be closed, and `word` what there is of the one that is being read. -/
def wordsOf (wholeLines : Bool) : Option Char → Option Text → Text → Supply
  | none, word, [] => Supply.also ⟨[], none⟩ word false
  | some q, _, [] => ⟨[], some q⟩
  | some q, word, c :: cs =>
    if c = '\n' then ⟨[], some q⟩
    else if c = q then wordsOf wholeLines none (some (word.getD [])) cs
    else wordsOf wholeLines (some q) (some (c :: word.getD [])) cs
  | none, word, '\\' :: c :: cs => wordsOf wholeLines none (some (c :: word.getD [])) cs
  | none, word, ['\\'] => Supply.also ⟨[], none⟩ word false
  | none, word, c :: cs =>
    if c = '"' ∨ c = '\'' then wordsOf wholeLines (some c) (some (word.getD [])) cs
    else if c = '\n' then (wordsOf wholeLines none none cs).also word true
    else if (c = ' ' ∨ c = '\t') ∧ (wholeLines = false ∨ word = none) then
      (wordsOf wholeLines none none cs).also word false
    else if word = none ∧ (c = '\x0b' ∨ c = '\x0c' ∨ c = '\x0d') then
      wordsOf wholeLines none none cs
    else wordsOf wholeLines none (some (c :: word.getD [])) cs

/-- The words that a byte separates. -/
def separated (mark : Char) (t : Text) : Supply :=
  let words := Text.cut (· == mark) t
  ⟨(if words.getLast? = some [] then words.dropLast else words).map fun w => (w, true), none⟩

/-- The supply up to a word that ends it. -/
def Supply.upTo (s : Supply) (last : Text) : Supply :=
  if s.words.any (·.1 == last) then ⟨s.words.takeWhile (·.1 != last), none⟩ else s

/-! ### Runs -/

/-- How many words there are for one run. -/
structure Portion where
  words : Option Nat := none
  lines : Option Nat := none
  /-- how many bytes the arguments may take, with one more for each -/
  size : Nat := 131072
  deriving Repr, DecidableEq

/-- The room that arguments take. -/
def room (words : List Text) : Nat := words.foldl (fun n w => n + w.length + 1) 0

/-- The words of a portion so far. -/
structure Heap where
  /-- the words, the last one first -/
  taken : List Text := []
  count : Nat := 0
  /-- how many lines end among them -/
  lines : Nat := 0
  /-- the room that they take -/
  room : Nat := 0

/-- The heap with a word more. -/
def Heap.add (h : Heap) (w : Text) (ends : Bool) : Heap :=
  { taken := w :: h.taken, count := h.count + 1, lines := h.lines + if ends then 1 else 0
    room := h.room + w.length + 1 }

/-- The words in portions; `base` is the room that the other arguments take. -/
def portions (m : Portion) (base : Nat) : Heap → List (Text × Bool) → List (List Text)
  | h, [] => if h.count = 0 then [] else [h.taken.reverse]
  | h, (w, ends) :: ws =>
    let isFull := h.count != 0 && decide (m.size < base + h.room + w.length + 1)
    let full := if isFull then [h.taken.reverse] else []
    let h := (if isFull then {} else h).add w ends
    if m.words = some h.count ∨ m.lines = some h.lines then
      full ++ h.taken.reverse :: portions m base {} ws
    else full ++ portions m base h ws

/-! ### Options -/

/-- What is asked for. -/
structure Plan where
  portion : Portion := {}
  /-- what a line of the input takes the place of -/
  place : Option Text := none
  /-- the byte that separates words -/
  mark : Option Char := none
  /-- the word that ends the input -/
  last : Option Text := none
  /-- nothing is run where there are no words -/
  needsWords : Bool := false
  tells : Bool := false
  asks : Bool := false
  source : Option Text := none
  /-- the variable that tells which of several runs at a time one is -/
  slot : Option Text := none
  warnings : List Text := []
  deriving Repr, DecidableEq

/-- The number that an option has for an argument. -/
def number (p : Process) (letter : Char) (least : Int) (t : Text) : Except Aftermath Nat :=
  let refused (t : Text) : Except Aftermath Nat :=
    .error (misused p 1 (t ++ [' '] ++ "for -".toList ++ letter :: " option".toList))
  let (isNegative, ds) : Bool × Text := match t with
    | '-' :: ds => (true, ds)
    | '+' :: ds => (false, ds)
    | ds => (false, ds)
  match count? ds with
  | none => refused ("invalid number \"" ++ t ++ ['"'])
  | some n =>
    let n : Int := if isNegative then -n else n
    if n < least then
      .error (misused p 1 ("value ".toList ++ Integer.text n ++ " for -".toList ++ letter ::
        " option should be >= ".toList ++ Integer.text least))
    else .ok n.toNat

/-- The warning about two options of which the one before is left out. -/
def conflict (earlier later : String) : Text :=
  ("warning: options " ++ earlier ++ " and " ++ later ++
    " are mutually exclusive, ignoring previous " ++ earlier ++ " value").toList

/-- The plan with a warning, if there is anything to warn about. -/
def Plan.warned (plan : Plan) (isWrong : Bool) (earlier later : String) : Plan :=
  if isWrong then { plan with warnings := plan.warnings ++ [conflict earlier later] } else plan

/-- Lines of the input take the place of a text. -/
def Plan.replacing (plan : Plan) (place : Text) : Plan :=
  let later := "--replace/-I/-i"
  let plan := plan.warned plan.portion.words.isSome "--max-args" later
  let plan := plan.warned plan.portion.lines.isSome "--max-lines" later
  { plan with place, portion := { plan.portion with words := none, lines := none } }

/-- Every run is for so many lines. -/
def Plan.byLines (plan : Plan) (later : String) (n : Nat) : Plan :=
  let plan := plan.warned plan.portion.words.isSome "--max-args" later
  let plan := plan.warned plan.place.isSome "--replace" later
  { plan with place := none, portion := { plan.portion with words := none, lines := n } }

/-- Every run is for so many words.  One word is as good as a line that takes the place of a text.
-/
def Plan.byWords (plan : Plan) (n : Nat) : Plan :=
  let later := "--max-args/-n"
  let plan := plan.warned plan.portion.lines.isSome "--max-lines" later
  let isIdle := n = 1 ∧ plan.place.isSome = true
  let plan := plan.warned (plan.place.isSome && !isIdle) "--replace" later
  { plan with
    place := if isIdle then plan.place else none
    portion := { plan.portion with words := if isIdle then none else some n, lines := none } }

/-- The byte that an argument says. -/
def markOf (p : Process) (t : Text) : Except Aftermath Char :=
  match t with
  | [c] => .ok c
  | '\\' :: cs =>
    match EscapeStyle.after ⟨false, true, true⟩ cs with
    | some (b, _) => .ok (Char.ofNat b.toNat)
    | none =>
      failWith p 1 ("Invalid escape sequence " ++ t ++ " in input delimiter specification.")
  | t =>
    failWith p 1 ("Invalid input delimiter specification " ++ t ++
      ": the delimiter must be either a single character or an escape sequence starting with \\.")

/-- The plan with one more option. -/
def Plan.with (p : Process) (plan : Plan) (option : Char × Text) : Except Aftermath Plan :=
  let (c, t) := option
  match c with
  | '0' => .ok { plan with mark := some '\x00' }
  | 'd' => (markOf p t).map fun mark => { plan with mark }
  | 'a' => .ok { plan with source := t }
  | 'E' => .ok { plan with last := if t.isEmpty then none else some t }
  | 'e' => .ok { plan with last := if t.isEmpty then none else some t }
  | 'I' => .ok (plan.replacing t)
  | 'i' => .ok (plan.replacing (if t.isEmpty then "\x7b\x7d".toList else t))
  | 'L' => (number p 'L' 1 t).map (plan.byLines "-L")
  | 'l' =>
    (if t.isEmpty then .ok 1 else number p 'l' 1 t).map (plan.byLines "--max-lines/-l")
  | 'n' => (number p 'n' 1 t).map plan.byWords
  | 'P' => (number p 'P' 0 t).map fun _ => plan
  | 's' =>
    (number p 's' 1 t).map fun size =>
      { plan with portion := { plan.portion with size := min size 131072 } }
  | 'r' => .ok { plan with needsWords := true }
  | 't' => .ok { plan with tells := true }
  | 'p' => .ok { plan with tells := true, asks := true }
  | 'σ' => .ok { plan with slot := t }
  | _ => .ok plan

/-- Its options. -/
def letters : Letters :=
  { plain := "0oprtxλ", valued := "adEILnPsσ", loose := "eil", anywhere := false
    long := [("null", '0'), ("arg-file", 'a'), ("delimiter", 'd'), ("eof", 'e'), ("replace", 'i'),
      ("max-lines", 'l'), ("max-args", 'n'), ("open-tty", 'o'), ("interactive", 'p'),
      ("no-run-if-empty", 'r'), ("max-chars", 's'), ("verbose", 't'), ("show-limits", 'λ'),
      ("exit", 'x'), ("max-procs", 'P'), ("process-slot-var", 'σ')]
    usage := "[OPTION]... COMMAND [INITIAL-ARGS]...", package := "(GNU findutils) 4.10.0" }

/-! ### Running -/

/-- Starts a program once for each list of arguments, up to one that cannot be started or that says
that there is no use in going on; says whether it came to the end. -/
def startEach (start : Starter) (plan : Plan) (name : Text) (p : Process) :
    List (List Text) → Aftermath → Aftermath × Bool
  | [], a => (a, true)
  | args :: rest, a =>
    let command := Text.unwords ((name :: args).map Quoting.ifNeeded)
    let told := if plan.tells then
        [(Channel.errors, Text.bytes (if plan.asks then command else command ++ ['\n']))]
      else []
    let a := { a with transcript := a.transcript ++ told }
    let abort (a : Aftermath) (code : Int) (t : Text) : Aftermath × Bool :=
      ({ a with ending := .exited code, transcript := a.transcript ++ [p.complaint t] }, false)
    if plan.asks then
      abort a 1 ("failed to open /dev/tty for reading: " ++ SysError.noDevice.reason)
    else
      let env := match plan.slot with
        | some slot => p.env.put slot.bytes [48]
        | none => p.env
      let q := { p with
        name, args, env
        files := { a.files with current := p.files.current }
        input := if plan.source.isSome then a.input else []
        position := none }
      match Search.startNamed start q with
      | .error e => abort a (if e = .notFound then 127 else 126) (name ++ ": " ++ e.reason)
      | .ok b =>
        let after := { a with
          files := b.files
          input := if plan.source.isSome then b.input else a.input
          transcript := a.transcript ++ b.transcript }
        match b.ending with
        | .exited 0 => startEach start plan name p rest after
        | .exited 255 => abort after 124 (name ++ ": exited with status 255; aborting")
        | .exited _ => startEach start plan name p rest { after with ending := .exited 123 }
        | .killed n =>
          abort after 125 (name ++ ": terminated by signal " ++ Integer.digits n)

/-- The complaint about a quote that nothing closes. -/
def unclosedFault (q : Char) : Text :=
  "unmatched ".toList ++ (if q = '"' then "double" else "single").toList ++
    (" quote; by default quotes are special to xargs unless you use the -0 option").toList

/-- The complaint about a byte that no argument can hold. -/
def zeroFault : Text :=
  ("WARNING: a NUL character occurred in the input.  It cannot be passed through in the " ++
    "argument list.  Did you mean to use the --null option?").toList

/-- The words of an input as they are asked for, and warnings about it. -/
def supplyOf (plan : Plan) (t : Text) : Supply × List Text :=
  match plan.mark with
  | some mark => (separated mark t, [])
  | none =>
    let s := wordsOf plan.place.isSome none none t
    let s := match plan.last with
      | some last => s.upTo last
      | none => s
    ({ s with words := s.words.map fun (w, ends) => (w.takeWhile (· != '\x00'), ends) },
      if t.contains '\x00' then [zeroFault] else [])

/-- The lists of arguments that a supply makes. -/
def argumentsOf (plan : Plan) (args : List Text) (base : Nat) (s : Supply) : List (List Text) :=
  match plan.place with
  | some place =>
    s.words.map fun (w, _) => args.map fun arg => replaced place w arg.length arg
  | none =>
    let found := portions plan.portion base {} s.words
    let found := if found.isEmpty && !plan.needsWords && s.unclosed.isNone then [[]] else found
    found.map (args ++ ·)

/-- Runs a program with the words of the input for arguments. -/
def run (start : Starter) (p : Process) (a : Asked) : Except Aftermath Aftermath := do
  let plan ← a.options.foldlM (Plan.with p) {}
  let (name, args) := match a.operands with
    | [] => (("echo" : Text), [])
    | name :: args => (name, args)
  let data ← match plan.source with
    | none => Except.ok p.input
    | some path =>
      if path = ['-'] then Except.ok p.input
      else
        match readFile p path with
        | .ok b => .ok b
        | .error e =>
          failWith p 1 ("Cannot open input file " ++ Quoting.cited path ++ ": " ++ e.reason)
  let base := room (name :: args)
  let (s, warnings) := supplyOf plan (Bytes.numbered data)
  let before := (plan.warnings ++ warnings).map p.complaint
  let nothing : Aftermath :=
    { p.leave 0 before with input := if plan.source.isSome then p.input else [] }
  let failed (a : Aftermath) (t : Text) : Aftermath :=
    { a with ending := .exited 1, transcript := a.transcript ++ [p.complaint t] }
  if s.words.any fun e => plan.portion.size < base + e.1.length + 1 then
    return failed nothing "cannot fit single argument within argument list size limit".toList
  let (after, isWhole) := startEach start plan name p (argumentsOf plan args base s) nothing
  match s.unclosed, isWhole with
  | some q, true => return failed after (unclosedFault q)
  | _, _ => return after

end Supplying

/-- Runs a program with the words of the input for arguments. -/
def xargs (start : Starter) : Tool :=
  taking Supplying.letters 1 fun p a => settle (Supplying.run start p a)

end AliasShell.Tools
