/-
The tool that puts lines in order.

What is compared of a line is a key: a part of it, read as text or as some kind of number.  The keys
of a line are taken out of it once, and lines are then compared key by key.
-/
import AliasShell.Machine.Tools.Contents

namespace AliasShell.Tools

namespace Sorting

/-! ### What is compared -/

/-- How a part of a line is read. -/
inductive Kind where
  | text
  | number
  /-- a number with an exponent, or a name of one that is none -/
  | general
  /-- a number with a letter behind it that tells its size -/
  | human
  | month
  | version
  deriving Repr, DecidableEq

/-- How keys are made and compared. -/
structure Rule where
  kind : Kind := .text
  reversed : Bool := false
  /-- Only blanks, letters and digits count; only bytes that show count. -/
  dictionary : Bool := false
  printing : Bool := false
  folds : Bool := false
  /-- Blanks are left out before the beginning is counted, and before the end is. -/
  trims : Bool := false
  trimsEnd : Bool := false
  deriving Repr, DecidableEq

/-- The rule says nothing. -/
def Rule.isPlain (r : Rule) : Bool := r == {}

/-- A part of a line: from a byte of a field on, up to a byte of another. -/
structure Key where
  /-- How many fields and bytes are left out in front. -/
  field : Nat := 0
  byte : Nat := 0
  /-- How many fields there are up to the end, and how many bytes of the next one. -/
  lastField : Option Nat := none
  lastByte : Nat := 0
  rule : Rule := {}
  deriving Repr, DecidableEq

/-- A blank between fields. -/
def isBlank (b : UInt8) : Bool := b == 32 || b == 9 || b == 10

/-- What is left behind a field. -/
def behindField (b : Bytes) : Bytes := (b.dropWhile isBlank).dropWhile fun x => !isBlank x

/-- What is left behind so many fields. -/
def behindFields (separator : Option UInt8) : Nat → Bytes → Bytes
  | 0, b => b
  | n + 1, b =>
    match separator with
    | some s => behindFields separator n ((b.dropWhile (· != s)).drop 1)
    | none => behindFields separator n (behindField b)

/-- What is left behind the last of so many fields, the separator behind it included. -/
def endOfFields (separator : Option UInt8) (takesLast : Bool) : Nat → Bytes → Bytes
  | 0, b => b
  | n + 1, b =>
    match separator with
    | some s =>
      let rest := b.dropWhile (· != s)
      endOfFields separator takesLast n (if n = 0 ∧ !takesLast then rest else rest.drop 1)
    | none => endOfFields separator takesLast n (behindField b)

/-- The part of a line that a key names. -/
def partOf (separator : Option UInt8) (k : Key) (line : Bytes) : Bytes :=
  let start := behindFields separator k.field line
  let start := if k.rule.trims then start.dropWhile isBlank else start
  let begin_ := min line.length (line.length - start.length + k.byte)
  let finish := match k.lastField with
    | none => line.length
    | some n =>
      let rest := endOfFields separator (k.lastByte != 0) (if k.lastByte = 0 then n + 1 else n) line
      if k.lastByte = 0 then line.length - rest.length
      else
        let rest := if k.rule.trimsEnd then rest.dropWhile isBlank else rest
        min line.length (line.length - rest.length + k.lastByte)
  (line.drop begin_).take (finish - begin_)

/-! ### Numbers -/

/-- A digit. -/
def isDigit (b : UInt8) : Bool := 48 ≤ b && b ≤ 57

/-- A decimal number: its sign, its whole part and its places. -/
structure Decimal where
  negative : Bool
  whole : Nat
  places : Bytes
  deriving Repr, DecidableEq

/-- The number that digits are. -/
def natOf (b : Bytes) : Nat := b.foldl (fun n x => 10 * n + (x.toNat - 48)) 0

/-- The number is 0. -/
def Decimal.isZero (d : Decimal) : Bool := d.whole == 0 && d.places.isEmpty

/-- The number that bytes begin with, and what follows it. -/
def Decimal.read (b : Bytes) : Decimal × Bytes :=
  let b := b.dropWhile isBlank
  let (negative, b) := match b with
    | 45 :: rest => (true, rest)
    | b => (false, b)
  let whole := b.takeWhile isDigit
  let rest := b.drop whole.length
  let (places, rest) := match rest with
    | 46 :: more => (more.takeWhile isDigit, more.dropWhile isDigit)
    | rest => ([], rest)
  (⟨negative, natOf whole, (places.reverse.dropWhile (· == 48)).reverse⟩, rest)

/-- How the sizes of two numbers stand. -/
def Decimal.compareSize (a b : Decimal) : Ordering :=
  (compare a.whole b.whole).then
    (if a.places = b.places then .eq else if Bytes.le a.places b.places then .lt else .gt)

/-- How two numbers stand. -/
def Decimal.compare (a b : Decimal) : Ordering :=
  match a.negative && !a.isZero, b.negative && !b.isZero with
  | false, false => a.compareSize b
  | true, true => b.compareSize a
  | true, false => .lt
  | false, true => .gt

/-- A number with an exponent as a fraction. -/
inductive General where
  /-- no number -/
  | none
  | undefined
  | infinite (negative : Bool)
  | finite (numerator : Int) (denominator : Nat)
  deriving Repr, DecidableEq

/-- Lower case letters of bytes. -/
def lowered (b : Bytes) : Bytes := b.map fun x => if 65 ≤ x && x ≤ 90 then x + 32 else x

/-- Upper case letters of bytes. -/
def raised (b : Bytes) : Bytes := b.map fun x => if 97 ≤ x && x ≤ 122 then x - 32 else x

/-- The value of a digit to base 16. -/
def hexValue? (b : UInt8) : Option Nat :=
  if isDigit b then some (b.toNat - 48)
  else if 97 ≤ b && b ≤ 102 then some (b.toNat - 87)
  else if 65 ≤ b && b ≤ 70 then some (b.toNat - 55)
  else none

/-- The number with an exponent that bytes begin with. -/
def General.read (b : Bytes) : General :=
  let b := b.dropWhile isBlank
  let (negative, b) := match b with
    | 45 :: rest => (true, rest)
    | 43 :: rest => (false, rest)
    | b => (false, b)
  let low := lowered (b.take 3)
  if low = Text.bytes "inf" then .infinite negative
  else if low = Text.bytes "nan" then .undefined
  else
    let sign (n : Nat) : Int := if negative then -n else n
    let exponent (mark : UInt8) (rest : Bytes) : Int :=
      match rest with
      | c :: rest =>
        if c ||| 32 != mark then 0
        else
          let (minus, ds) := match rest with
            | 45 :: ds => (true, ds)
            | 43 :: ds => (false, ds)
            | ds => (false, ds)
          let n : Nat := min 5000 (natOf (ds.takeWhile isDigit))
          if minus then -(n : Int) else n
      | [] => 0
    let isHex := lowered (b.take 2) = Text.bytes "0x" ∧ (b.drop 2).head?.any fun x =>
      (hexValue? x).isSome
    if isHex then
      let body := b.drop 2
      let whole := body.takeWhile fun x => (hexValue? x).isSome
      let rest := body.drop whole.length
      let (places, rest) := match rest with
        | 46 :: more =>
          let ds := more.takeWhile fun x => (hexValue? x).isSome
          (ds, more.drop ds.length)
        | rest => ([], rest)
      let value := (whole ++ places).foldl (fun n x => 16 * n + (hexValue? x).getD 0) 0
      let e := exponent 112 rest - 4 * (places.length : Int)
      .finite (sign value * (Nat.pow 2 e.toNat : Nat)) (Nat.pow 2 (-e).toNat)
    else
      let whole := b.takeWhile isDigit
      let rest := b.drop whole.length
      let (places, rest) := match rest with
        | 46 :: more => (more.takeWhile isDigit, more.dropWhile isDigit)
        | rest => ([], rest)
      if (whole ++ places).isEmpty then .none
      else
        let e := exponent 101 rest - (places.length : Int)
        .finite (sign (natOf (whole ++ places)) * (Nat.pow 10 e.toNat : Nat))
          (Nat.pow 10 (-e).toNat)

/-- The place of a kind of number among the others. -/
def General.rank : General → Nat
  | .none => 0
  | .undefined => 1
  | .infinite true => 2
  | .finite _ _ => 3
  | .infinite false => 4

/-- How two numbers stand. -/
def General.compare (a b : General) : Ordering :=
  match a, b with
  | .finite n k, .finite m l => Ord.compare (n * l) (m * k)
  | a, b => Ord.compare a.rank b.rank

/-- The letters behind numbers that tell their size, the small ones first. -/
def sizes : Bytes := Text.bytes "KMGTPEZYRQ"

/-- The size that the letter behind a number tells. -/
def sizeOf (d : Decimal) (rest : Bytes) : Int :=
  let order := match rest with
    | c :: _ =>
      let c := if c = 107 then 75 else c
      match sizes.findIdx? (· == c) with
      | some i => i + 1
      | none => 0
    | [] => 0
  if d.isZero then 0 else if d.negative then -(order : Int) else order

/-- The names of the months. -/
def months : List Bytes :=
  ["JAN", "FEB", "MAR", "APR", "MAY", "JUN", "JUL", "AUG", "SEP", "OCT", "NOV", "DEC"].map
    fun t => Text.bytes t.toList

/-- The number of the month that bytes begin with, or 0. -/
def monthOf (b : Bytes) : Nat :=
  match months.findIdx? (· == raised ((b.dropWhile isBlank).take 3)) with
  | some i => i + 1
  | none => 0

/-! ### Versions -/

/-- A letter. -/
def isLetter (b : UInt8) : Bool := (65 ≤ b && b ≤ 90) || (97 ≤ b && b ≤ 122)

/-- The place of a byte among those of versions: what ends a piece, the rest, and a tilde first. -/
def versionRank (b : Option UInt8) : Int :=
  match b with
  | none => -1
  | some b =>
    if isDigit b then 0
    else if isLetter b then b.toNat
    else if b = 126 then -2
    else b.toNat + 256

/-- How the parts in front of digits stand. -/
def compareLetters : Bytes → Bytes → Ordering
  | [], [] => .eq
  | [], b :: _ => if isDigit b then .eq else compare (versionRank none) (versionRank (some b))
  | a :: _, [] => if isDigit a then .eq else compare (versionRank (some a)) (versionRank none)
  | a :: as, b :: bs =>
    if isDigit a && isDigit b then .eq
    else (compare (versionRank (some a)) (versionRank (some b))).then (compareLetters as bs)

/-- How two versions stand: by letters and by numbers in turn; at most `n` of them. -/
def compareParts : Nat → Bytes → Bytes → Ordering
  | 0, _, _ => .eq
  | _, [], [] => .eq
  | n + 1, a, b =>
    let notDigit (x : UInt8) : Bool := !isDigit x
    let letters := compareLetters a b
    let a := a.dropWhile notDigit
    let b := b.dropWhile notDigit
    (letters.then (compare (natOf (a.takeWhile isDigit)) (natOf (b.takeWhile isDigit)))).then
      (compareParts n (a.dropWhile isDigit) (b.dropWhile isDigit))

/-- The bytes are an ending: a point, a letter, and letters and digits after it. -/
def isEnding : Bytes → Bool
  | [] => true
  | 46 :: c :: cs =>
    (isLetter c || c == 126) &&
      isEnding' (cs.dropWhile fun x => isLetter x || isDigit x || x == 126)
  | _ => false
where
  /-- What follows an ending is nothing or one more. -/
  isEnding' (b : Bytes) : Bool :=
    (b.foldl
      (fun (ok, atPoint) x =>
        if x = 46 then (ok && !atPoint, true)
        else if atPoint then (ok && (isLetter x || x == 126), false)
        else (ok && (isLetter x || isDigit x || x == 126), false))
      (true, false)) == (true, false)

/-- A name without its endings. -/
def withoutEndings (b : Bytes) : Bytes :=
  let ns := List.range b.length
  match ns.find? fun n => n != 0 && isEnding (b.drop n) && b[n]? == some 46 with
  | some n => b.take n
  | none => b

/-- How two names with versions stand. -/
def compareVersions (a b : Bytes) : Ordering :=
  if a = b then .eq
  else
    let rank (x : Bytes) : Nat :=
      if x.isEmpty then 0 else if x = [46] then 1 else if x = [46, 46] then 2
      else if x.head? = some 46 then 3 else 4
    if rank a != rank b then compare (rank a) (rank b)
    else
      let drop (x : Bytes) : Bytes := if rank x = 3 then x.drop 1 else x
      let a := drop a
      let b := drop b
      let n := a.length + b.length + 1
      (compareParts n (withoutEndings a) (withoutEndings b)).then (compareParts n a b)

/-! ### Keys -/

/-- A key of a line. -/
inductive Value where
  | text (b : Bytes)
  | number (d : Decimal)
  | general (g : General)
  | human (size : Int) (d : Decimal)
  | month (n : Nat)
  | version (b : Bytes)

/-- The order of byte runs. -/
def compareBytes (a b : Bytes) : Ordering :=
  if a = b then .eq else if Bytes.le a b then .lt else .gt

/-- How two keys stand. -/
def Value.compare : Value → Value → Ordering
  | .text a, .text b => compareBytes a b
  | .number a, .number b => a.compare b
  | .general a, .general b => a.compare b
  | .human m a, .human n b => (Ord.compare m n).then (a.compare b)
  | .month a, .month b => Ord.compare a b
  | .version a, .version b => compareVersions a b
  | _, _ => .eq

/-- The bytes that count for a rule, in the case in which they count. -/
def Rule.shape (r : Rule) (b : Bytes) : Bytes :=
  let b := if r.dictionary then
      b.filter fun x => isLetter x || isDigit x || x == 32 || x == 9
    else if r.printing then b.filter fun x => 32 ≤ x && x < 127
    else b
  if r.folds then raised b else b

/-- The value of a part of a line. -/
def Rule.value (r : Rule) (b : Bytes) : Value :=
  match r.kind with
  | .text => .text (r.shape b)
  | .number => .number (Decimal.read b).1
  | .general => .general (General.read b)
  | .human =>
    let (d, rest) := Decimal.read b
    .human (sizeOf d rest) d
  | .month => .month (monthOf b)
  | .version => .version (r.shape b)

/-- A line with its keys. -/
structure Entry where
  line : Bytes
  values : List Value

/-- How lines are compared. -/
structure Plan where
  keys : List Key
  separator : Option UInt8
  /-- Lines whose keys are equal are equal. -/
  byKeysOnly : Bool
  reversed : Bool

/-- A line with its keys taken out. -/
def Plan.entry (p : Plan) (line : Bytes) : Entry :=
  ⟨line, p.keys.map fun k => k.rule.value (partOf p.separator k line)⟩

/-- How two lists of keys stand. -/
def compareValues : List Key → List Value → List Value → Ordering
  | k :: ks, a :: as, b :: bs =>
    let o := a.compare b
    (if k.rule.reversed then o.swap else o).then (compareValues ks as bs)
  | _, _, _ => .eq

/-- How two lines stand. -/
def Plan.compare (p : Plan) (a b : Entry) : Ordering :=
  let byKeys := compareValues p.keys a.values b.values
  if p.byKeysOnly && !p.keys.isEmpty then byKeys
  else
    let last := compareBytes a.line b.line
    byKeys.then (if p.reversed then last.swap else last)

/-- Lines of which no two that follow each other are the same to a comparison. -/
def distinct (p : Plan) : List Entry → List Entry
  | a :: b :: more =>
    if p.compare a b == .eq then distinct p (a :: more) else a :: distinct p (b :: more)
  | es => es

/-- Two rows of lines as one, the smaller line of both first; at most `n` lines. -/
def merged (p : Plan) : Nat → List Entry → List Entry → List Entry
  | 0, as, bs => as ++ bs
  | _, [], bs => bs
  | _, as, [] => as
  | n + 1, a :: as, b :: bs =>
    if p.compare a b == .gt then b :: merged p n (a :: as) bs else a :: merged p n as (b :: bs)

/-! ### Reading keys -/

/-- A rule with one more letter; `start` and `finish` say to which ends a blank letter goes. -/
def Rule.with? (r : Rule) (start finish : Bool) (c : Char) : Option Rule :=
  match c with
  | 'b' => some { r with trims := r.trims || start, trimsEnd := r.trimsEnd || finish }
  | 'd' => some { r with dictionary := true }
  | 'f' => some { r with folds := true }
  | 'g' => some { r with kind := .general }
  | 'h' => some { r with kind := .human }
  | 'i' => some { r with printing := true }
  | 'M' => some { r with kind := .month }
  | 'n' => some { r with kind := .number }
  | 'r' => some { r with reversed := true }
  | 'R' => some r
  | 'V' => some { r with kind := .version }
  | _ => none

/-- A rule with the letters in front of a text, and what follows them. -/
def Rule.withLetters (start finish : Bool) : Rule → Text → Rule × Text
  | r, [] => (r, [])
  | r, c :: cs =>
    match r.with? start finish c with
    | some r => withLetters start finish r cs
    | none => (r, c :: cs)

/-- A number at the beginning of a text that describes a key. -/
def keyNumber (what : String) (t : Text) : Except Text (Nat × Text) :=
  let ds := t.takeWhile Char.isDigit
  if ds.isEmpty then
    .error (what.toList ++ ": invalid count at start of " ++ Quoting.cited t)
  else .ok (Integer.ofDigits ds, t.drop ds.length)

/-- The key that an argument describes. -/
def Key.read (whole : Text) : Except Text Key := do
  let bad (what : String) : Text :=
    what.toList ++ ": invalid field specification " ++ Quoting.cited whole
  let (field, rest) ← keyNumber "invalid number at field start" whole
  if field = 0 then throw (bad "field number is zero")
  let (byte, rest) ← match rest with
    | '.' :: more => do
      let (n, rest) ← keyNumber "invalid number after '.'" more
      if n = 0 then throw (bad "character offset is zero")
      pure (n - 1, rest)
    | rest => pure (0, rest)
  let (rule, rest) := Rule.withLetters true false {} rest
  match rest with
  | ',' :: more =>
    let (last, rest) ← keyNumber "invalid number after ','" more
    if last = 0 then throw (bad "field number is zero")
    let (lastByte, rest) ← match rest with
      | '.' :: more => keyNumber "invalid number after '.'" more
      | rest => pure (0, rest)
    let (rule, rest) := Rule.withLetters false true rule rest
    if !rest.isEmpty then throw (bad "stray character in field spec")
    return ⟨field - 1, byte, some (last - 1), lastByte, rule⟩
  | rest =>
    if !rest.isEmpty then throw (bad "stray character in field spec")
    return ⟨field - 1, byte, none, 0, rule⟩

/-! ### The tool -/

/-- The letters that are known. -/
def letters : Letters :=
  { plain := "bdfghiMnrRVcCmsuzδ", valued := "ktoTSπφβκρω", loose := "χ"
    long := [("ignore-leading-blanks", 'b'), ("check", 'χ'), ("compress-program", 'κ'),
      ("debug", 'δ'), ("dictionary-order", 'd'), ("ignore-case", 'f'), ("files0-from", 'φ'),
      ("general-numeric-sort", 'g'), ("ignore-nonprinting", 'i'), ("key", 'k'), ("merge", 'm'),
      ("month-sort", 'M'), ("numeric-sort", 'n'), ("human-numeric-sort", 'h'),
      ("version-sort", 'V'), ("random-sort", 'R'), ("random-source", 'ρ'), ("sort", 'ω'),
      ("output", 'o'), ("reverse", 'r'), ("stable", 's'), ("batch-size", 'β'),
      ("buffer-size", 'S'), ("field-separator", 't'), ("temporary-directory", 'T'),
      ("unique", 'u'), ("zero-terminated", 'z'), ("parallel", 'π')] }

/-- The letters for the words that say what is sorted by. -/
def sortWords : List (String × Char) :=
  [("general-numeric", 'g'), ("human-numeric", 'h'), ("month", 'M'), ("numeric", 'n'),
    ("random", 'R'), ("version", 'V')]

/-- The letters for the words that say how loudly order is checked. -/
def checkWords : List (String × Char) :=
  [("quiet", 'C'), ("silent", 'C'), ("diagnose-first", 'c')]

/-- The options with letters in place of words. -/
def withWords (p : Process) (a : Asked) : Except Aftermath Asked := do
  let options ← a.options.mapM fun (c, t) =>
    if c = 'ω' then (choose p "sort" sortWords t).map fun c => (c, ([] : Text))
    else if c = 'χ' then
      if t.isEmpty then Except.ok ('c', [])
      else (choose p "check" checkWords t).map fun c => (c, [])
    else Except.ok (c, t)
  return { a with options }

/-- The letters of a rule that cannot go together. -/
def clash? (r : Asked) : Option Text :=
  let kinds := "ghMnRV".toList.filter r.has
  let texts := "di".toList.filter r.has
  if 1 < kinds.length ∨ (!kinds.isEmpty ∧ kinds != ['R'] ∧ kinds != ['V'] ∧ !texts.isEmpty) then
    some ("options '-" ++ "dghiMnRV".toList.filter r.has ++ "' are incompatible")
  else none

/-- The numbers of a field and a byte in front of a text, with `.` between them, and the rest. -/
def oldNumbers (t : Text) : Nat × Option Nat × Text :=
  let field := t.takeWhile Char.isDigit
  match t.drop field.length with
  | '.' :: rest =>
    let byte := rest.takeWhile Char.isDigit
    (Integer.ofDigits field, some (Integer.ofDigits byte), rest.drop byte.length)
  | rest => (Integer.ofDigits field, none, rest)

/-- Where a key begins in the old way, which counts from 0. -/
def modernStart (t : Text) : Text :=
  let (field, byte, rest) := oldNumbers t
  Integer.digits (field + 1) ++
    (match byte with
      | some n => '.' :: Integer.digits (n + 1)
      | none => []) ++ rest

/-- Where a key ends in the old way, which names what follows it. -/
def modernEnd (t : Text) : Text :=
  let (field, byte, rest) := oldNumbers t
  (match byte.getD 0 with
    | 0 => Integer.digits field
    | n => Integer.digits (field + 1) ++ '.' :: Integer.digits n) ++ rest

/-- Arguments in which keys that are named in the old way, by the numbers of fields as options, are
named as they are today. -/
def modernKeys : List Text → List Text
  | [] => []
  | ['-', '-'] :: rest => ['-', '-'] :: rest
  | ('+' :: c :: cs) :: rest =>
    if !c.isDigit then ('+' :: c :: cs) :: modernKeys rest
    else
      let start := modernStart (c :: cs)
      match rest with
      | ('-' :: d :: ds) :: more =>
        if d.isDigit then
          "-k".toList :: (start ++ ',' :: modernEnd (d :: ds)) :: modernKeys more
        else "-k".toList :: start :: modernKeys (('-' :: d :: ds) :: more)
      | rest => "-k".toList :: start :: modernKeys rest
  | t :: rest => t :: modernKeys rest

/-- The separator that is asked for. -/
def separator? (a : Asked) : Except Text (Option UInt8) :=
  let found : Except Text (List UInt8) := (a.values 't').mapM fun t =>
    if t.isEmpty then Except.error "empty tab".toList
    else if t = ['\\', '0'] then Except.ok 0
    else if t.length = 1 then Except.ok ((Text.bytes t).headD 0)
    else Except.error ("multi-character tab ".toList ++ Quoting.cited t)
  match found with
  | .error t => .error t
  | .ok [] => .ok none
  | .ok (b :: bs) => if bs.all (· == b) then .ok (some b) else .error "incompatible tabs".toList

/-- How lines are compared, as it is asked for. -/
def plan (a : Asked) : Except Text Plan := do
  let base := a.options.foldl (fun r (c, _) => (r.with? true true c).getD r) ({} : Rule)
  let keys ← (a.values 'k').mapM Key.read
  let separator ← separator? a
  if let some t := clash? a then throw t
  let keys := keys.map fun k => if k.rule.isPlain then { k with rule := base } else k
  let keys := if keys.isEmpty && !{ base with reversed := false }.isPlain then
      [⟨0, 0, none, 0, base⟩]
    else keys
  return { keys, separator, byKeysOnly := a.has 's' || a.has 'u', reversed := a.has 'r' }

/-- What is wrong with the numbers that only say how the work is done. -/
def fault? (a : Asked) : Option Text :=
  let bad (letter : Char) (option : String) (valid : Text → Bool) : Option Text :=
    ((a.values letter).find? fun t => !valid t).map fun t =>
      "invalid ".toList ++ option.toList ++ " argument ".toList ++ Quoting.cited t
  let isNumber (t : Text) : Bool := (count? t).isSome
  let isSize (t : Text) : Bool :=
    let ds := t.takeWhile Char.isDigit
    !ds.isEmpty && ["", "%", "b", "k", "K", "m", "M", "g", "G", "t", "T"].contains
      (String.ofList (t.drop ds.length))
  ((bad 'π' "--parallel" isNumber).or (bad 'S' "-S" isSize)).or (bad 'β' "--batch-size" isNumber)

/-- The lines of contents put in order, or looked at for their order. -/
def run (p : Process) (a : Asked) (plan : Plan) : Aftermath :=
  let checks := a.hasAny "cC"
  let quietly := a.has 'C'
  let letter : Text := if quietly then ['C'] else ['c']
  let outputs := (a.values 'o').eraseDups
  if 1 < outputs.length then p.refuse 2 "multiple output files specified"
  else if a.has 'c' && quietly then p.refuse 2 "options '-cC' are incompatible"
  else if checks && !outputs.isEmpty then
    p.refuse 2 ("options '-" ++ letter ++ "o' are incompatible")
  else if checks && 1 < a.operands.length then
    p.refuse 2 ("extra operand " ++ Quoting.cited (a.operands.getD 1 []) ++
      " not allowed with -" ++ letter)
  else
    let (found, rest) := contents p (orInput a.operands)
    let unread := found.findSome? fun (name, content) =>
      match content with
      | .ok _ | .error .isDirectory => none
      | .error e => some ("cannot read: " ++ name ++ ": " ++ e.reason)
    let fault := unread.or (found.findSome? fun (name, content) =>
      match content with
      | .error .isDirectory =>
        some ("read failed: " ++ name ++ ": " ++ SysError.isDirectory.reason)
      | _ => none)
    match fault with
    | some t => { p.refuse 2 t with input := rest }
    | none =>
      let zeros := a.has 'z'
      let cut (b : Bytes) : List Bytes := if zeros then (swapEnds b).lines.map swapEnds else b.lines
      let join (es : List Entry) : Bytes := es.flatMap fun e => e.line ++ [if zeros then 0 else 10]
      let each := found.map fun (_, content) => (cut (content.toOption.getD [])).map plan.entry
      let entries := each.flatten
      if checks then
        let bad := (entries.zip (entries.drop 1)).findIdx? fun (x, y) =>
          let o := plan.compare x y
          o == .gt || (a.has 'u' && o == .eq)
        match bad with
        | none => { p.quit 0 with input := rest }
        | some i =>
          let name := a.operands.headD ['-']
          let line := match entries[i + 1]? with
            | some e => e.line
            | none => []
          let t := name ++ ':' :: Integer.digits (i + 2) ++ ": disorder: ".toList ++
            Bytes.numbered line
          { (if quietly then p.quit 1 else p.refuse 1 t) with input := rest }
      else
        let ordered :=
          if a.has 'm' then
            each.foldl (fun done es => merged plan (done.length + es.length) done es) []
          else entries.mergeSort fun x y => plan.compare x y != .gt
        let b := join (if a.has 'u' then distinct plan ordered else ordered)
        match outputs with
        | [] => conclude p rest [(.output, b)]
        | name :: _ =>
          match p.files.modify name fun _ => b with
          | .ok files => { conclude p rest [] with files }
          | .error e => p.refuse 2 ("open failed: " ++ name ++ ": " ++ e.reason)

end Sorting

open Sorting in
/-- Lines in order. -/
def sort : Tool := fun p =>
  taking letters 2
    (fun p a => settle do
      let a ← withWords p a
      if let some t := fault? a then failWith p 2 t
      match plan a with
      | .error t => failWith p 2 t
      | .ok plan => return run p a plan)
    { p with args := modernKeys p.args }

end AliasShell.Tools
