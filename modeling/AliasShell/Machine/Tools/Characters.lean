/-
The tool that changes, leaves out or squeezes characters.

A set of characters is written as a row of elements:

    element := char | char '-' char | '[:' class ':]' | '[=' char '=]' | '[' char '*' count ']'

Two sets stand beside each other character by character, so the order in a set counts, and the
second one is made as long as the first.  Classes of upper and lower case letters stand beside each
other as wholes.
-/
import AliasShell.Machine.Script.Pattern
import AliasShell.Machine.Tools.Contents

namespace AliasShell.Tools

namespace Characters

/-! ### Elements -/

/-- Which letters an element is, where that matters. -/
inductive Case where
  | other
  | upper
  | lower
  deriving Repr, DecidableEq

/-- An element of a set. -/
inductive Element where
  | one (b : UInt8)
  | range (first last : UInt8)
  | named (c : Case) (members : Bytes)
  | alike (b : UInt8)
  /-- a character many times; 0 for as often as it takes -/
  | many (b : UInt8) (n : Nat)
  deriving Repr, DecidableEq

/-- The bytes from one to another. -/
def bytesFrom (a b : UInt8) : Bytes :=
  (List.range (b.toNat + 1 - a.toNat)).map fun i => UInt8.ofNat (a.toNat + i)

/-- The bytes that an element stands for, in order. -/
def Element.bytes : Element → Bytes
  | .one b => [b]
  | .range a b => bytesFrom a b
  | .named _ bs => bs
  | .alike b => [b]
  | .many b n => List.replicate n b

/-- How many bytes an element stands for. -/
def Element.size : Element → Nat
  | .one _ => 1
  | .range a b => b.toNat + 1 - a.toNat
  | .named _ bs => bs.length
  | .alike _ => 1
  | .many _ n => n

/-- The letters that an element is. -/
def Element.case : Element → Case
  | .named c _ => c
  | _ => .other

/-- A set. -/
abbrev Row := List Element

/-- The number of bytes of a set. -/
def Row.size (r : Row) : Nat := (r.map Element.size).foldl (fun n m => n + m) 0

/-- The bytes of a set. -/
def Row.bytes (r : Row) : Bytes := r.flatMap Element.bytes

/-! ### Reading sets -/

/-- A character of a set as it is written, and whether a backslash stands before it. -/
structure Sign where
  byte : UInt8
  escaped : Bool := false
  deriving Repr, DecidableEq

/-- The letters for characters that do not show. -/
def escapes : List (Char × UInt8) :=
  [('a', 7), ('b', 8), ('t', 9), ('n', 10), ('v', 11), ('f', 12), ('r', 13)]

/-- The value of a digit in eighths. -/
def octal? (c : Char) : Option Nat :=
  if '0' ≤ c ∧ c ≤ '7' then some (c.toNat - '0'.toNat) else none

/-- The number in eighths that stands behind a backslash, with how many digits it has, and whether
a third digit was too much. -/
def octalByte (t : Text) : Nat × Nat × Bool :=
  match t.map octal? with
  | some a :: some b :: some c :: _ =>
    if 64 * a + 8 * b + c < 256 then (64 * a + 8 * b + c, 3, false) else (8 * a + b, 2, true)
  | some a :: some b :: _ => (8 * a + b, 2, false)
  | some a :: _ => (a, 1, false)
  | _ => (0, 0, false)

/-- The characters of a set, with what there is to warn of; at most `n`. -/
def signs : Nat → Text → List Sign × List Text
  | 0, _ => ([], [])
  | _, [] => ([], [])
  | _, ['\\'] =>
    ([⟨92, false⟩], ["warning: an unescaped backslash at end of string is not portable".toList])
  | n + 1, '\\' :: c :: cs =>
    let (b, k, warned) := octalByte (c :: cs)
    if 0 < k then
      let (more, warnings) := signs n ((c :: cs).drop k)
      let ds := (c :: cs).take 3
      let warning : Text := "warning: the ambiguous octal escape \\".toList ++ ds ++
        " is being\n\tinterpreted as the 2-byte sequence \\0".toList ++ ds.take 2 ++
        ", ".toList ++ ds.drop 2
      (⟨UInt8.ofNat b, true⟩ :: more, if warned then warning :: warnings else warnings)
    else
      let (more, warnings) := signs n cs
      (⟨(escapes.lookup c).getD (Text.byteOf c), true⟩ :: more, warnings)
  | n + 1, c :: cs =>
    let (more, warnings) := signs n cs
    (⟨Text.byteOf c, false⟩ :: more, warnings)

/-- The sign is this character, with no backslash. -/
def Sign.is (s : Sign) (c : Char) : Bool := !s.escaped && s.byte == Text.byteOf c

/-- A text with what does not show escaped, and backslashes too. -/
def shown (signs : List Sign) : Text :=
  signs.flatMap fun s =>
    let c := Char.ofNat s.byte.toNat
    if c = '\\' then "\\\\".toList else if Quoting.isPlain c then [c] else Quoting.escaped c

/-- A character, or its number in eighths if it does not show. -/
def shownByte (b : UInt8) : Text :=
  let c := Char.ofNat b.toNat
  if Quoting.isPlain c then [c]
  else
    let ds := Nat.toDigits 8 b.toNat
    '\\' :: List.replicate (3 - ds.length) '0' ++ ds

/-- What stands before a mark and a `]` behind it, and what follows them. -/
def closed? (mark : Char) : List Sign → Option (List Sign × List Sign)
  | s :: t :: rest =>
    if s.is mark && t.is ']' then some ([], rest)
    else (closed? mark (t :: rest)).map fun (inner, rest) => (s :: inner, rest)
  | _ => none

/-- The signs begin with a star, digits and a bracket. -/
def isRepeat : List Sign → Bool
  | s :: rest =>
    s.is '*' && match rest.dropWhile fun x => (Char.ofNat x.byte.toNat).isDigit with
      | t :: _ => t.is ']'
      | [] => false
  | [] => false

/-- The members of a class. -/
def class? (name : List Sign) : Option Element :=
  let name := name.map fun s => Char.ofNat s.byte.toNat
  (Script.Pattern.classes.lookup name).map fun ranges =>
    .named
      (if name = "upper".toList then .upper else if name = "lower".toList then .lower else .other)
      (ranges.flatMap fun (a, b) => bytesFrom (UInt8.ofNat a.toNat) (UInt8.ofNat b.toNat))

/-- The count in an element that stands many times. -/
def repeatCount? (ds : List Sign) : Option Nat :=
  let t := ds.map fun s => Char.ofNat s.byte.toNat
  if t.isEmpty then some 0
  else if t.head? = some '0' then
    if t.all fun c => (octal? c).isSome then
      some (t.foldl (fun n c => 8 * n + (c.toNat - '0'.toNat)) 0)
    else none
  else if t.all Char.isDigit then
    let n := Integer.ofDigits t
    if n < Nat.pow 2 63 then some n else none
  else none

/-- An element of a character many times, behind its bracket, and what follows it. -/
def many? : List Sign → Option (Except Text (Element × List Sign))
  | s :: star :: rest =>
    if !star.is '*' then none
    else
      let inner := rest.takeWhile fun x => !x.escaped && x.byte != 93
      match rest.drop inner.length with
      | close :: rest =>
        if !close.is ']' then none
        else
          match repeatCount? inner with
          | some n => some (.ok (.many s.byte n, rest))
          | none => some (.error ("invalid repeat count ".toList ++ Quoting.cited (shown inner) ++
              " in [c*n] construct".toList))
      | [] => none
  | _ => none

/-- The element in brackets that signs behind a bracket begin with, and what follows it. -/
def bracketed? (signs : List Sign) : Option (Except Text (Element × List Sign)) :=
  let inDelimiters : Option (Except Text (Element × List Sign)) :=
    match signs with
    | s :: rest =>
      if s.is ':' then
        (closed? ':' rest).bind fun (inner, after) =>
          if inner.isEmpty then some (.error "missing character class name '[::]'".toList)
          else
            match class? inner with
            | some e => some (.ok (e, after))
            | none =>
              if isRepeat rest then none
              else some (.error ("invalid character class ".toList ++
                Quoting.cited (shown inner)))
      else if s.is '=' then
        (closed? '=' rest).bind fun (inner, after) =>
          match inner with
          | [] => some (.error "missing equivalence class character '[==]'".toList)
          | [c] => some (.ok (.alike c.byte, after))
          | _ =>
            if isRepeat rest then none
            else some (.error (shown inner ++
              ": equivalence class operand must be a single character".toList))
      else none
    | [] => none
  match inDelimiters with
  | some r => some r
  | none => many? signs

/-- The elements of a set; at most `n`.  The last two signs stand for themselves. -/
def elements : Nat → List Sign → Except Text Row
  | n + 1, s :: t :: u :: rest =>
    match if s.is '[' then bracketed? (t :: u :: rest) else none with
    | some (.ok (e, rest)) => (elements n rest).map (e :: ·)
    | some (.error t) => .error t
    | none =>
      if t.is '-' then
        if u.byte < s.byte then
          .error ("range-endpoints of '".toList ++ shownByte s.byte ++ '-' :: shownByte u.byte ++
            "' are in reverse collating sequence order".toList)
        else (elements n rest).map (.range s.byte u.byte :: ·)
      else (elements n (t :: u :: rest)).map (.one s.byte :: ·)
  | _, signs => .ok (signs.map fun s => .one s.byte)

/-! ### Two sets beside each other -/

/-- The bytes that are not in a set, in order. -/
def others (bytes : Bytes) : Bytes := (bytesFrom 0 255).filter fun b => !bytes.contains b

/-- The numbers of endless elements in a set. -/
def endless (r : Row) : Nat := r.countP fun e => e matches .many _ 0

/-- A set whose endless element is this long. -/
def filled (n : Nat) (r : Row) : Row :=
  r.map fun
    | .many b 0 => .many b n
    | e => e

/-- An element that is being gone through: what is left of it, and whether nothing of it is gone. -/
structure Rest where
  case : Case
  bytes : Bytes
  isNew : Bool

/-- The rests of a set of which nothing is gone. -/
def rests (r : Row) : List Rest :=
  (r.map fun e => ⟨e.case, e.bytes, true⟩).filter fun e => !e.bytes.isEmpty

/-- The rests when one more byte is gone. -/
def advance : List Rest → List Rest
  | ⟨_, _ :: b :: bs, _⟩ :: more => ⟨.other, b :: bs, false⟩ :: more
  | _ :: more => more
  | [] => []

/-- What stands beside what in two sets. -/
inductive Pairing where
  | byte (a b : UInt8)
  | raise
  | lower
  deriving Repr, DecidableEq

/-- The pairings of two sets, with the letters of their cases as wholes; at most `n`.  A whole
of the second set has to stand beside one of the first. -/
def pairings : Nat → List Rest → List Rest → Option (List Pairing)
  | n + 1, firsts, second :: seconds =>
    if second.case != .other && second.isNew then
      match firsts with
      | first :: firsts =>
        if first.case != .other && first.isNew then
          (pairings n firsts seconds).map fun more =>
            match first.case, second.case with
            | .lower, .upper => .raise :: more
            | .upper, .lower => .lower :: more
            | _, _ => more
        else none
      | [] => none
    else
      match firsts with
      | ⟨_, a :: _, _⟩ :: _ =>
        let b := second.bytes.headD 0
        (pairings n (advance firsts) (advance (second :: seconds))).map (.byte a b :: ·)
      | _ => some []
  | _, _, _ => some []

/-- How much shorter two sets are with the letters of their cases as wholes. -/
def discount (r : Row) : Nat := 25 * r.countP fun e => e.case != .other

/-- What a byte becomes; of several pairings the last one counts. -/
def changed (pairs : List Pairing) (b : UInt8) : UInt8 :=
  pairs.foldl
    (fun now pair =>
      match pair with
      | .byte a c => if a = b then c else now
      | .raise => if 97 ≤ b && b ≤ 122 then b - 32 else now
      | .lower => if 65 ≤ b && b ≤ 90 then b + 32 else now)
    b

/-- The byte that makes a second set longer. -/
def lastByte? : Row → Option UInt8
  | [] => none
  | r =>
    match r.getLast? with
    | some (.named _ _) => none
    | some e => e.bytes.getLast?
    | none => none

/-- How bytes are changed that one set holds, or does not hold, to those of another. -/
def change (inverts truncates : Bool) (first second : Row) :
    Except Text ((UInt8 → UInt8) × Bytes) := do
  if endless first != 0 then
    throw "the [c*] repeat construct may not appear in string1".toList
  let size := if inverts then (others first.bytes).length else first.size
  if 1 < endless second then
    throw "only one [c*] repeat construct may appear in string2".toList
  let second := filled (size - second.size) second
  if second.any fun e => e matches .alike _ then
    throw "[=c=] expressions may not appear in string2 when translating".toList
  if second.any fun e => e matches .named .other _ then
    throw ("when translating, the only character classes that may appear in\n".toList ++
      "string2 are 'upper' and 'lower'".toList)
  let wholes := !inverts && second.any fun e => e.case != .other
  let n := first.size + second.size + 1
  if wholes && (pairings n (rests first) (rests second)).isNone then
    throw "misaligned [:upper:] and/or [:lower:] construct".toList
  let size := if wholes then size - discount second else size
  let secondSize := if wholes then second.size - discount second else second.size
  let second ← if secondSize < size ∧ !truncates then
      if secondSize = 0 then
        throw "when not truncating set1, string2 must be non-empty".toList
      else
        match lastByte? second with
        | some b => pure (second ++ [.many b (size - secondSize)])
        | none =>
          throw ("when translating with string1 longer than string2,\n".toList ++
            "the latter string must not end with a character class".toList)
    else pure second
  if inverts && first.any fun e => e matches .named _ _ then
    let bytes := second.bytes
    if bytes.length != size || !bytes.all (· == bytes.headD 0) then
      throw ("when translating with complemented character classes,\n".toList ++
        "string2 must map all characters in the domain to one".toList)
  if inverts then
    let pairs := ((others first.bytes).zip second.bytes).map fun (a, b) => Pairing.byte a b
    return (changed pairs, second.bytes)
  else
    let pairs := (pairings (n + size) (rests first) (rests second)).getD []
    return (changed pairs, second.bytes)

/-- Bytes of which no two of a set that follow each other are the same. -/
def squeezed (inSet : UInt8 → Bool) : Bytes → Bytes
  | a :: b :: bs =>
    if a = b && inSet a then squeezed inSet (b :: bs) else a :: squeezed inSet (b :: bs)
  | bs => bs

/-- What is known of all bytes, looked up and not computed for each one. -/
def table {α : Type} (f : UInt8 → α) : UInt8 → α :=
  let values := ((List.range 256).map fun n => f (UInt8.ofNat n)).toArray
  fun b => (values[b.toNat]?).getD (f b)

/-! ### The tool -/

/-- The letters that are known. -/
def letters : Letters :=
  { plain := "AcCdst", anywhere := false
    long := [("complement", 'c'), ("delete", 'd'), ("squeeze-repeats", 's'), ("truncate-set1", 't')]
    usage := "[OPTION]... STRING1 [STRING2]" }

/-- What is wrong with the number of sets. -/
def checkOperands (p : Process) (a : Asked) : Except Aftermath Unit :=
  let deletes := a.has 'd'
  let squeezes := a.has 's'
  let least := if deletes = squeezes then 2 else 1
  let most := if deletes && !squeezes then 1 else 2
  let n := a.operands.length
  let end_ (t : Text) (more : List Text) : Except Aftermath Unit :=
    .error (p.leave 1 ([p.complaint t] ++
      more.map (fun t => (Channel.errors, Text.bytes (t ++ ['\n']))) ++ [hint p]))
  if n = 0 then end_ "missing operand" []
  else if n < least then
    end_ ("missing operand after " ++ Quoting.cited (a.operands.getLastD []))
      [if squeezes then
        "Two strings must be given when both deleting and squeezing repeats.".toList
      else "Two strings must be given when translating.".toList]
  else if most < n then
    end_ ("extra operand " ++ Quoting.cited (a.operands.getD most []))
      (if n = 2 then
        ["Only one string may be given when deleting without squeezing repeats.".toList]
      else [])
  else .ok ()

/-- The set that an operand is, after what there is to warn of. -/
def read (t : Text) : List Text × Except Text Row :=
  let (signs, warnings) := signs t.length t
  (warnings, elements (signs.length + 1) signs)

/-- What is written of the input. -/
def result (a : Asked) (b : Bytes) (first : Row) (second : Option Row) : Except Text Bytes := do
  let inverts := a.hasAny "cC"
  let bytes := if inverts then others first.bytes else first.bytes
  let inFirst := table bytes.contains
  if !(a.has 'd') && second.isSome then
    let (f, target) ← change inverts (a.has 't') first (second.getD [])
    let changedBytes := b.map (table f)
    return if a.has 's' then squeezed (table target.contains) changedBytes else changedBytes
  if endless first != 0 then
    throw "the [c*] repeat construct may not appear in string1".toList
  if (second.map endless).any (· != 0) then
    throw "the [c*] construct may appear in string2 only when translating".toList
  let kept := if a.has 'd' then b.filter fun x => !inFirst x else b
  if !a.has 's' then return kept
  match second with
  | some r => return squeezed (table r.bytes.contains) kept
  | none => return squeezed inFirst kept

end Characters

open Characters in
/-- Characters changed, left out or squeezed. -/
def tr : Tool :=
  taking letters 1 fun p a => settle do
    checkOperands p a
    let (warnings, first) := read (a.operands.headD [])
    let warned := warnings.map p.complaint
    match first with
    | .error t => return p.leave 1 (warned ++ [p.complaint t])
    | .ok first =>
      let (warnings, second) : List Text × Except Text (Option Row) :=
        match a.operands.drop 1 with
        | t :: _ => ((read t).1, (read t).2.map some)
        | [] => ([], .ok none)
      let warned := warned ++ warnings.map p.complaint
      match second.bind fun second => result a p.input first second with
      | .error t => return p.leave 1 (warned ++ [p.complaint t])
      | .ok b => return { p.leave 0 (warned ++ [(.output, b)]) with input := [] }

end AliasShell.Tools
