/-
Tools that write bytes in letters of an alphabet, and read them again.

A group of bytes is read as one number and written with as many letters as it has digits to a power
of two.  The letters that a group at the end has too few are made up for with `=`; the bits that
these leave over are 0.
-/
import AliasShell.Machine.Tools.Basic

namespace AliasShell.Tools

/-- An alphabet. -/
structure Alphabet where
  letters : Text
  /-- how many bits a letter stands for -/
  bits : Nat
  /-- how many bytes, and how many letters, a group has -/
  bytes : Nat
  size : Nat

namespace Alphabet

/-- The letters and digits, large and small, and two signs. -/
def wide : Alphabet :=
  ⟨"ABCDEFGHIJKLMNOPQRSTUVWXYZabcdefghijklmnopqrstuvwxyz0123456789+/", 6, 3, 4⟩

/-- The large letters and six digits. -/
def narrow : Alphabet := ⟨"ABCDEFGHIJKLMNOPQRSTUVWXYZ234567", 5, 5, 8⟩

/-- The number that digits are to a base. -/
def number (base : Nat) (digits : List Nat) : Nat := digits.foldl (fun n d => base * n + d) 0

/-- So many digits of a number to a base. -/
def digits (base count n : Nat) : List Nat :=
  (List.range count).map fun i => n / Nat.pow base (count - 1 - i) % base

/-- How many letters so many bytes take. -/
def lettersFor (a : Alphabet) (count : Nat) : Nat := (8 * count + a.bits - 1) / a.bits

/-- The letters of a group. -/
def group (a : Alphabet) (b : Bytes) : Text :=
  let zeros := List.replicate (a.bytes - b.length) 0
  let n := number 256 (b.map UInt8.toNat ++ zeros)
  let all := digits (Nat.pow 2 a.bits) a.size n
  (all.take (a.lettersFor b.length)).map (fun d => a.letters.getD d '=') ++
    List.replicate (a.size - a.lettersFor b.length) '='

/-- The letters of bytes; at most `n` groups. -/
def encode (a : Alphabet) : Nat → Bytes → Text
  | 0, _ => []
  | _, [] => []
  | n + 1, b => a.group (b.take a.bytes) ++ a.encode n (b.drop a.bytes)

/-- The bytes of the digits of a group, and whether nothing is left over. -/
def ungroup (a : Alphabet) (ds : List Nat) : Bytes × Bool :=
  let n := number (Nat.pow 2 a.bits) (ds ++ List.replicate (a.size - ds.length) 0)
  let count := a.bits * ds.length / 8
  let all := digits 256 a.bytes n
  ((all.take count).map UInt8.ofNat,
    a.lettersFor count = ds.length && (all.drop count).all (· == 0))

/-- The bytes of letters, and whether they are all right; at most `n` groups. -/
def decode (a : Alphabet) : Nat → Text → Bytes × Bool
  | 0, _ => ([], true)
  | _, [] => ([], true)
  | n + 1, t =>
    let found := (t.take a.size).takeWhile a.letters.contains
    let (b, isWhole) := a.ungroup (found.map fun c => a.letters.findIdx (· == c))
    let fill := ((t.take a.size).drop found.length).takeWhile (· == '=')
    let isFull := found.length + fill.length = a.size || t.length = found.length
    if !found.isEmpty && isWhole && isFull then
      let (more, isRight) := a.decode n (t.drop a.size)
      (b ++ more, isRight)
    else (b, false)

end Alphabet

/-- Lines of so many letters, all in one if it is 0; at most `n` of them. -/
def wrapped (width : Nat) : Nat → Text → Text
  | 0, _ => []
  | _, [] => []
  | n + 1, t =>
    if width = 0 then t else t.take width ++ '\n' :: wrapped width n (t.drop width)

/-- A tool that writes bytes in an alphabet. -/
def encoding (alphabet : Alphabet) : Tool :=
  taking
    { plain := "di", valued := "w", usage := "[OPTION]... [FILE]"
      long := [("decode", 'd'), ("ignore-garbage", 'i'), ("wrap", 'w')] }
    1 fun p a => settle do
      let width ← match a.value? 'w' with
        | none => pure 76
        | some t =>
          match size? t with
          | some n => pure n
          | none => failWith p 1 ("invalid wrap size: ".toList ++ Quoting.cited t)
      match a.operands.drop 1 with
      | t :: _ => failMisused p 1 ("extra operand " ++ Quoting.cited t)
      | [] =>
        let (found, rest) := contents p (orInput a.operands)
        let transcript := found.flatMap fun (name, content) =>
          match content with
          | .error .isDirectory =>
            [p.complaint ("read error: ".toList ++ SysError.isDirectory.reason)]
          | .error e => [p.complaint (fileFault name e)]
          | .ok b =>
            if a.has 'd' then
              let t := Bytes.numbered (b.filter (· != 10))
              let t := if a.has 'i' then
                  t.filter fun c => c == '=' || alphabet.letters.contains c
                else t
              let (b, isRight) := alphabet.decode t.length t
              (Channel.output, b) :: if isRight then [] else [p.complaint "invalid input"]
            else [(.output, Text.bytes (wrapped width (8 * b.length) (alphabet.encode b.length b)))]
        return conclude p rest transcript

/-- Bytes in 64 letters. -/
def base64 : Tool := encoding .wide

/-- Bytes in 32 letters. -/
def base32 : Tool := encoding .narrow

end AliasShell.Tools
