/-
Text as bytes.  Files, the environment of a process and an output channel hold bytes, which need not
be the encoding of any text; `decode?` is `none` for those.
-/
import AliasShell.Text.Basic

namespace AliasShell

/-- A run of bytes. -/
abbrev Bytes := List UInt8

namespace Bytes

/-- The text whose UTF-8 encoding the bytes are, if there is one. -/
def decode? (b : Bytes) : Option Text := b.toByteArray.utf8Decode?.map Array.toList

/-! ### Reading what need not be text

Bytes that begin a character and do not finish it, or begin none, read as one mark in place of each
longest piece that could still have become a character. -/

/-- What stands for bytes that are no character. -/
def mark : Char := '\uFFFD'

/-- A character of more than one byte that is being read. -/
structure Sequence where
  /-- The bits so far. -/
  bits : Nat
  /-- How many bytes are to come after the next one. -/
  left : Nat
  /-- The range of the next byte. -/
  low : UInt8
  high : UInt8
  deriving Repr, DecidableEq

/-- The sequence that a byte begins. -/
def Sequence.begin? (b : UInt8) : Option Sequence :=
  let n := b.toNat
  if n < 0xC2 then none
  else if n < 0xE0 then some ⟨n - 0xC0, 0, 0x80, 0xBF⟩
  else if n < 0xF0 then
    some ⟨n - 0xE0, 1, if n = 0xE0 then 0xA0 else 0x80, if n = 0xED then 0x9F else 0xBF⟩
  else if n < 0xF5 then
    some ⟨n - 0xF0, 2, if n = 0xF0 then 0x90 else 0x80, if n = 0xF4 then 0x8F else 0xBF⟩
  else none

/-- What a byte outside of a sequence shows, and the sequence that it begins. -/
def opening (b : UInt8) : Text × Option Sequence :=
  if b < 0x80 then ([Char.ofNat b.toNat], none)
  else
    match Sequence.begin? b with
    | some s => ([], some s)
    | none => ([mark], none)

/-- What bytes show that come in the middle of a sequence or outside of one. -/
def shownFrom : Option Sequence → Bytes → Text
  | none, [] => []
  | some _, [] => [mark]
  | none, b :: bs =>
    let (t, s) := opening b
    t ++ shownFrom s bs
  | some s, b :: bs =>
    if s.low ≤ b ∧ b ≤ s.high then
      let bits := s.bits * 64 + (b.toNat - 0x80)
      match s.left with
      | 0 => Char.ofNat bits :: shownFrom none bs
      | left + 1 => shownFrom (some ⟨bits, left, 0x80, 0xBF⟩) bs
    else
      let (t, s) := opening b
      mark :: t ++ shownFrom s bs

/-- The text that bytes show. -/
def shown (b : Bytes) : Text := shownFrom none b

example : shown [0xC3, 0x28, 0xFF] = [mark, '(', mark] := by decide
example : shown [0xF0, 0x9F, 0x98] = [mark] := by decide
example : shown [0xC0, 0x80] = [mark, mark] := by decide

/-- The bytes as characters, each of them the one of its number. -/
def numbered (b : Bytes) : Text := b.map fun x => Char.ofNat x.toNat

/-- The lines of bytes, each without its end; the last one need not have any. -/
def lines : Bytes → List Bytes
  | [] => []
  | b :: bs =>
    if b = 10 then [] :: lines bs
    else
      match lines bs with
      | [] => [[b]]
      | line :: more => (b :: line) :: more

/-- The order of byte runs: by the first byte in which they differ, a beginning before the whole. -/
def le (a b : Bytes) : Bool := !decide (b < a)

end Bytes

/-- The byte whose number a character has. -/
def Text.byteOf (c : Char) : UInt8 := UInt8.ofNat c.toNat

/-- The bytes whose numbers the characters have. -/
def Text.bytes (t : Text) : Bytes := t.map Text.byteOf

/-- The UTF-8 encoding. -/
def Text.encode (t : Text) : Bytes := t.flatMap String.utf8EncodeChar

/-- The length of the encoding. -/
def Text.byteLength (t : Text) : Nat := t.encode.length

/-- The characters at the front whose encodings fit into this many bytes. -/
def Text.takeBytes : Nat → Text → Text
  | _, [] => []
  | n, c :: cs =>
    let width := (String.utf8EncodeChar c).length
    if width ≤ n then c :: takeBytes (n - width) cs else []

@[simp] theorem Text.encode_nil : Text.encode [] = [] := rfl

@[simp] theorem Text.encode_append (a b : Text) :
    Text.encode (a ++ b) = Text.encode a ++ Text.encode b := by
  simp [Text.encode]

theorem Text.toByteArray_encode (t : Text) : t.encode.toByteArray = t.utf8Encode := rfl

/-- What was encoded reads back. -/
@[simp] theorem Text.decode?_encode (t : Text) : Bytes.decode? t.encode = some t := by
  simp [Bytes.decode?, Text.toByteArray_encode, List.utf8Decode?_utf8Encode]

/-- Two texts with one encoding are one text. -/
theorem Text.encode_injective {a b : Text} (h : a.encode = b.encode) : a = b := by
  have hd := congrArg Bytes.decode? h
  simpa using hd

end AliasShell
