/-
Names in quotes, as complaints and formats show them.  And backslashes in a text, and the bytes that
it stands for.

A backslash with a letter stands for a control character, with digits for the byte of that number in
eighths; `\c` ends everything.  Programs differ in what they take, which is the style.
-/
import AliasShell.Text.Basic
import AliasShell.Text.Bytes

namespace AliasShell.Quoting

/-! ### Quotes -/

/-- The characters that a name is quoted for. -/
def special : Text := " !\"$&()*;<=>[^\x60|\\?'\n\t\r"

/-- A name that begins with one of these is quoted. -/
def specialStarts : Text := "#~"

/-- Characters that cannot stand between double quotes as they are. -/
def active : Text := "\"$\x60\\!"

/-- A character that shows as itself. -/
def isPlain (c : Char) : Bool := ' ' ≤ c && c ≤ '~'

/-- The letters for characters that do not show. -/
def letters : List (Char × Char) :=
  [('\x07', 'a'), ('\x08', 'b'), ('\t', 't'), ('\n', 'n'), ('\x0b', 'v'), ('\x0c', 'f'),
    ('\r', 'r')]

/-- A character that does not show. -/
def escaped (c : Char) : Text :=
  match letters.lookup c with
  | some l => ['\\', l]
  | none =>
    let ds := Nat.toDigits 8 c.toNat
    '\\' :: List.replicate (3 - ds.length) '0' ++ ds

/-- The rest of a name in quotes, of which `hidden` says whether the last character shows. -/
def rest (hidden : Bool) : Text → Text
  | [] => ['\'']
  | c :: cs =>
    if isPlain c then
      (if hidden then "''".toList else []) ++
        (if c = '\'' then "'\\''".toList else [c]) ++ rest false cs
    else (if hidden then [] else "'$'".toList) ++ escaped c ++ rest true cs

/-- A name in quotes. -/
def always (t : Text) : Text :=
  if t.contains '\'' && !t.any active.contains && t.all isPlain then '"' :: t ++ ['"']
  else '\'' :: rest false t

/-- A name, in quotes if there is anything special about it. -/
def ifNeeded (t : Text) : Text :=
  if t.isEmpty || t.any special.contains || !t.all isPlain ||
      (t.head?).any specialStarts.contains then always t
  else t

/-- A word that a complaint cites: in quotes, and what is special in it escaped. -/
def cited (t : Text) : Text :=
  let shown (c : Char) : Text :=
    if c = '\'' ∨ c = '\\' then ['\\', c] else if isPlain c then [c] else escaped c
  '\'' :: t.flatMap shown ++ ['\'']

end AliasShell.Quoting

namespace AliasShell

/-! ### Backslashes -/

/-- Which backslashes mean something. -/
structure EscapeStyle where
  /-- `\c` ends the text -/
  ends : Bool
  /-- a zero may stand in front of the three digits of a number -/
  zero : Bool
  /-- `\x` begins a number in sixteenths, and `\"` is a quote -/
  wide : Bool
  deriving Repr, DecidableEq

namespace EscapeStyle

/-- What a backslash and a letter stand for. -/
def controls : List (Char × UInt8) :=
  [('\\', 92), ('a', 7), ('b', 8), ('e', 27), ('f', 12), ('n', 10), ('r', 13), ('t', 9), ('v', 11)]

/-- A digit in eighths. -/
def isOctal (c : Char) : Bool := '0' ≤ c && c ≤ '7'

/-- A digit in sixteenths. -/
def isHex (c : Char) : Bool :=
  c.isDigit || ('a' ≤ c && c ≤ 'f') || ('A' ≤ c && c ≤ 'F')

/-- The value of a digit. -/
def digitValue (c : Char) : Nat :=
  if c.isDigit then c.toNat - '0'.toNat else c.toLower.toNat - 'a'.toNat + 10

/-- The byte that digits denote in a base. -/
def byteOf (base : Nat) (ds : Text) : UInt8 :=
  UInt8.ofNat (ds.foldl (fun n d => base * n + digitValue d) 0)

/-- What stands after a backslash: its bytes, and the number of characters that they took; `none`
where a backslash only stands for itself. -/
def after (s : EscapeStyle) (t : Text) : Option (UInt8 × Nat) :=
  match t with
  | [] => none
  | c :: cs =>
    match controls.lookup c with
    | some b => some (b, 1)
    | none =>
      if s.wide && c == '"' then some (34, 1)
      else if s.wide && c == 'x' then
        let ds := (cs.take 2).takeWhile isHex
        if ds.isEmpty then none else some (byteOf 16 ds, ds.length + 1)
      else if isOctal c then
        let skipped := if s.zero && c == '0' && (cs.head?).any isOctal then 1 else 0
        let ds := ((t.drop skipped).take 3).takeWhile isOctal
        some (byteOf 8 ds, ds.length + skipped)
      else none

/-- The bytes of a text, and whether it was ended before its end; at most `n` characters. -/
def bytesOf (s : EscapeStyle) : Nat → Text → Bytes × Bool
  | 0, _ => ([], false)
  | _, [] => ([], false)
  | n + 1, '\\' :: cs =>
    if s.ends && cs.head? == some 'c' then ([], true)
    else
      match s.after cs with
      | some (b, k) =>
        let (bs, ended) := bytesOf s n (cs.drop k)
        (b :: bs, ended)
      | none =>
        let (bs, ended) := bytesOf s n cs
        (92 :: bs, ended)
  | n + 1, c :: cs =>
    let (bs, ended) := bytesOf s n cs
    (Text.byteOf c :: bs, ended)

/-- The bytes of a text, and whether it was ended before its end. -/
def bytes (s : EscapeStyle) (t : Text) : Bytes × Bool := s.bytesOf t.length t

/-- What a script takes in the arguments of `echo`. -/
def script : EscapeStyle := ⟨true, true, false⟩

/-- What the tool of that name takes, if it is asked to. -/
def tool : EscapeStyle := ⟨true, true, true⟩

end EscapeStyle

end AliasShell
