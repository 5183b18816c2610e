/-
The tool that shows bytes as numbers or characters.

The bytes are cut into rows of one length.  Each layer shows a row on a line of its own, as items of
its own size, and the items of several layers stand below each other.  A full row like the one
before it is left out.
-/
import AliasShell.Machine.Format
import AliasShell.Machine.Number.Double
import AliasShell.Machine.Tools.Basic

namespace AliasShell.Tools

namespace Dumping

/-! ### Items -/

/-- What an item is shown as. -/
inductive View where
  | signed
  | unsigned
  | octal
  | hexadecimal
  | float
  | letter
  | name
  deriving Repr, DecidableEq

/-- What is shown of each row on one line. -/
structure Layer where
  view : View
  /-- how many bytes an item has -/
  size : Nat
  /-- the row is shown as a text as well -/
  trailer : Bool := false
  deriving Repr, DecidableEq

/-- The columns that an item takes. -/
def Layer.width (l : Layer) : Nat :=
  let bySize (one two four eight : Nat) : Nat :=
    if l.size = 1 then one else if l.size = 2 then two else if l.size = 4 then four else eight
  match l.view with
  | .signed => bySize 4 6 11 20
  | .unsigned => bySize 3 5 10 20
  | .octal => bySize 3 6 11 22
  | .hexadecimal => bySize 2 4 8 16
  | .float => bySize 0 0 15 24
  | .letter | .name => 3

/-- The number that bytes are, the least of them first. -/
def value (b : Bytes) : Nat := b.foldr (fun x n => 256 * n + x.toNat) 0

/-- The format with 24 binary digits. -/
def single : Precision := ⟨24, 128, 149⟩

/-- The number that the bits of a format are. -/
def decoded (p : Precision) (size bits : Nat) : Quantity :=
  let fraction := bits % Nat.pow 2 (p.bits - 1)
  let exponent := bits / Nat.pow 2 (p.bits - 1) % (2 * p.most)
  let negative := bits / Nat.pow 2 (8 * size - 1) = 1
  if exponent = 2 * p.most - 1 then if fraction = 0 then .infinite negative else .nan negative
  else
    let whole := if exponent = 0 then fraction else fraction + Nat.pow 2 (p.bits - 1)
    let (num, den) := Quantity.scaled whole 1 ((max exponent 1 : Int) - 1 - p.least)
    .finite negative num den

/-- The digits of a number that tell it from all others of its format; at least so many, or `n`
more. -/
def shortest (p : Precision) (q : Quantity) : Nat → Nat → Text
  | 0, digits => Format.quantityText .double [] 0 (some digits) 'g' q
  | n + 1, digits =>
    let t := Format.quantityText .double [] 0 (some digits) 'g' q
    let (a, b) : Int × Nat := q.fraction
    let back : Option (Int × Nat) := (Quantity.read? p t).map fun r => r.value.fraction
    match back with
    | some (c, d) => if a * (d : Int) = c * (b : Int) then t else shortest p q n (digits + 1)
    | none => t

/-- The text of a number of four or eight bytes. -/
def floatText (size bits : Nat) : Text :=
  let p := if size = 4 then single else .double
  let q := decoded p size bits
  let (num, den) := q.fraction
  let isSmall := num.natAbs * Nat.pow 2 (p.most - 2) < den
  match q with
  | .finite .. => shortest p q 17 (if isSmall then 1 else if size = 4 then 6 else 15)
  | q => Format.quantityText .double [] 0 none 'g' q

/-- The bytes that a backslash and a letter show. -/
def letters : List (UInt8 × Text) :=
  [(0, ['\\', '0']), (7, ['\\', 'a']), (8, ['\\', 'b']), (9, ['\\', 't']), (10, ['\\', 'n']),
    (11, ['\\', 'v']), (12, ['\\', 'f']), (13, ['\\', 'r'])]

/-- The names of the bytes that do not show. -/
def names : List String :=
  ["nul", "soh", "stx", "etx", "eot", "enq", "ack", "bel", "bs", "ht", "nl", "vt", "ff", "cr", "so",
    "si", "dle", "dc1", "dc2", "dc3", "dc4", "nak", "syn", "etb", "can", "em", "sub", "esc", "fs",
    "gs", "rs", "us", "sp"]

/-- A byte that shows as itself. -/
def isVisible (b : UInt8) : Bool := 32 ≤ b && b < 127

/-- A number with zeros in front. -/
def padded (base width n : Nat) : Text :=
  let ds := Nat.toDigits base n
  List.replicate (width - ds.length) '0' ++ ds

/-- The text of an item. -/
def Layer.shown (l : Layer) (b : Bytes) : Text :=
  let n := value b
  match l.view with
  | .signed =>
    let all := Nat.pow 2 (8 * l.size)
    Integer.text (if 2 * n < all then n else (n : Int) - all)
  | .unsigned => Integer.digits n
  | .octal => padded 8 l.width n
  | .hexadecimal => padded 16 l.width n
  | .float => floatText l.size n
  | .letter =>
    let x := UInt8.ofNat n
    match letters.lookup x with
    | some t => t
    | none => if isVisible x then [Char.ofNat n] else padded 8 3 n
  | .name =>
    let low := n % 128
    if low = 127 then "del".toList
    else ((names[low]?).map String.toList).getD [Char.ofNat low]

/-! ### Rows -/

/-- How rows are shown. -/
structure Style where
  layers : List Layer
  /-- the bytes of a row -/
  length : Nat
  /-- the base and the digits of the addresses, if there are any -/
  address : Option (Nat × Nat)
  /-- rows that repeat are shown -/
  whole : Bool

/-- An address. -/
def Style.at (s : Style) (n : Nat) : Text :=
  match s.address with
  | some (base, width) => padded base width n
  | none => []

/-- A text at the right end of so many columns. -/
def toRight (width : Nat) (t : Text) : Text := List.replicate (width - t.length) ' ' ++ t

/-- The items of a row; at most `n`. -/
def items (size : Nat) : Nat → Bytes → List Bytes
  | 0, _ => []
  | _, [] => []
  | n + 1, b =>
    (b.take size ++ List.replicate (size - b.length) 0) :: items size n (b.drop size)

/-- What a layer shows of a row.  The columns that another layer needs more are dealt out among the
items, from the last one on. -/
def Style.line (s : Style) (l : Layer) (row : Bytes) : Text :=
  let count := s.length / l.size
  let columns (l : Layer) : Nat := (l.width + 1) * (s.length / l.size)
  let more := s.layers.foldl (fun n l => max n (columns l)) 0 - l.width * count
  let found := items l.size count row
  let blank := count - found.length
  let shown := (found.zipIdx).flatMap fun (b, i) =>
    toRight (more * (count - i) / count - more * (count - i - 1) / count + l.width) (l.shown b)
  if l.trailer then
    let visible := row.map fun b => if isVisible b then Char.ofNat b.toNat else '.'
    shown ++ List.replicate (blank * l.width + more * blank / count) ' ' ++
      "  >".toList ++ visible ++ ['<']
  else shown

/-- The lines of a row. -/
def Style.lines (s : Style) (address : Nat) (row : Bytes) : Text :=
  let front := s.at address
  (s.layers.zipIdx).flatMap fun (l, i) =>
    (if i = 0 then front else List.replicate front.length ' ') ++ s.line l row ++ ['\n']

/-- The lines of all rows; at most `n`.  `before` is the row before, and `left` says that it was
left out. -/
def Style.rows (s : Style) : Nat → Option Bytes → Bool → Nat → Bytes → Text
  | 0, _, _, _, _ => []
  | _, _, _, _, [] => []
  | n + 1, before, left, address, b =>
    let row := b.take s.length
    let next := address + row.length
    if !s.whole && before == some row && row.length = s.length then
      (if left then [] else ['*', '\n']) ++ s.rows n before true next (b.drop s.length)
    else s.lines address row ++ s.rows n (some row) false next (b.drop s.length)

/-- Everything that is shown of bytes from an address on. -/
def Style.dump (s : Style) (address : Nat) (b : Bytes) : Text :=
  let last := if s.address.isNone then [] else s.at (address + b.length) ++ ['\n']
  s.rows b.length none false address b ++ last

/-- The texts of at least so many characters that end in a zero, with their addresses.  `found` is
what there is of one, the last character first. -/
def Style.strings (s : Style) (least : Nat) : Nat → Text → Bytes → Text
  | _, _, [] => []
  | address, found, b :: bs =>
    if isVisible b then s.strings least (address + 1) (Char.ofNat b.toNat :: found) bs
    else
      let shown : Text :=
        if b = 0 ∧ least ≤ found.length then
          let front := s.at (address - found.length)
          front ++ (if front.isEmpty then [] else [' ']) ++ found.reverse ++ ['\n']
        else []
      shown ++ s.strings least (address + 1) [] bs

/-! ### What is asked for -/

/-- The layers that letters ask for without more words. -/
def shorthands : List (Char × String) :=
  [('a', "a"), ('b', "o1"), ('c', "c"), ('d', "u2"), ('D', "u4"), ('e', "fD"), ('F', "fD"),
    ('f', "fF"), ('B', "o2"), ('H', "x4"), ('h', "x2"), ('I', "dL"), ('L', "dL"), ('l', "dL"),
    ('i', "dI"), ('O', "o4"), ('o', "o2"), ('s', "dS"), ('X', "x4"), ('x', "x2")]

/-- The layers that a text asks for; at most `n`. -/
def layersOf (whole : Text) : Nat → Text → Except Text (List Layer)
  | 0, _ => .ok []
  | _, [] => .ok []
  | n + 1, c :: cs => do
    let go (view : View) (size : Nat) (rest : Text) : Except Text (List Layer) := do
      let (trailer, rest) := match rest with
        | 'z' :: rest => (true, rest)
        | rest => (false, rest)
      return ⟨view, size, trailer⟩ :: (← layersOf whole n rest)
    let sized (view : View) (usual : Nat) (marks : List (Char × Nat)) (sizes : List Nat)
        (what : String) : Except Text (List Layer) :=
      match cs with
      | m :: rest =>
        match marks.lookup m with
        | some size => go view size rest
        | none =>
          let ds := cs.takeWhile Char.isDigit
          if ds.isEmpty then go view usual cs
          else
            let size := Integer.ofDigits ds
            if sizes.contains size then go view size (cs.drop ds.length)
            else
              .error ("invalid type string ".toList ++ Quoting.cited whole ++
                ";\nthis system doesn't provide a ".toList ++ Integer.digits size ++
                "-byte ".toList ++
                what.toList ++ " type".toList)
      | [] => go view usual []
    let whole? : Option View := List.lookup c
      [('d', View.signed), ('u', .unsigned), ('o', .octal), ('x', .hexadecimal)]
    match whole?, c with
    | some view, _ => sized view 4 [('C', 1), ('S', 2), ('I', 4), ('L', 8)] [1, 2, 4, 8] "integral"
    | none, 'f' => sized .float 8 [('F', 4), ('D', 8)] [4, 8] "floating point"
    | none, 'a' => go .name 1 cs
    | none, 'c' => go .letter 1 cs
    | none, _ =>
      .error
        ("invalid character '".toList ++ c :: "' in type string ".toList ++ Quoting.cited whole)

/-- The base and the digits of addresses. -/
def addresses : List (Char × Option (Nat × Nat)) :=
  [('o', some (8, 7)), ('d', some (10, 7)), ('x', some (16, 6)), ('n', none)]

/-- The letters that are known. -/
def known : Letters :=
  { plain := "aBbcDdeFfHhIiLlOosvXx", valued := "AjNSt", loose := "wσ"
    long := [("skip-bytes", 'j'), ("address-radix", 'A'), ("read-bytes", 'N'), ("format", 't'),
      ("output-duplicates", 'v'), ("width", 'w'), ("strings", 'σ')] }

/-- How rows are shown, and a complaint about their length. -/
def styleOf (p : Process) (a : Asked) : Except Aftermath (Style × Transcript) := do
  let address ← match a.value? 'A' with
    | none => pure (some (8, 7))
    | some t =>
      match (t.head?).bind fun c => addresses.lookup c with
      | some address => pure address
      | none =>
        failWith p 1 ("invalid output address radix '".toList ++ t.take 1 ++
          "'; it must be one character from [doxn]".toList)
  let asked := a.options.filterMap fun (c, t) =>
    if c = 't' then some t else (shorthands.lookup c).map String.toList
  let layers ← (asked.mapM fun t => layersOf t t.length t).mapError (p.refuse 1)
  let layers := if layers.flatten.isEmpty then [⟨.octal, 2, false⟩] else layers.flatten
  let least := layers.foldl (fun n l => Nat.lcm n l.size) 1
  let usual := if 16 ≤ least then least else least * (16 / least)
  let wanted ← match a.value? 'w' with
    | none => pure none
    | some [] => pure (some 32)
    | some t =>
      match size? t with
      | some n => pure (some n)
      | none => failWith p 1 ("invalid -w argument ".toList ++ Quoting.cited t)
  let (length, told) : Nat × Transcript := match wanted with
    | none => (usual, [])
    | some n =>
      if n != 0 ∧ n % least = 0 then (n, [])
      else
        (least, [p.complaint ("warning: invalid width ".toList ++ Integer.digits n ++
          "; using ".toList ++ Integer.digits least ++ " instead".toList)])
  return (⟨layers, length, address, a.has 'v'⟩, told)

end Dumping

open Dumping in
/-- Bytes as numbers or characters. -/
def od : Tool :=
  taking known 1 fun p a => settle do
    let (style, told) ← styleOf p a
    let number (c : Char) : Except Aftermath (Option Nat) :=
      match a.value? c with
      | none => pure none
      | some t =>
        match size? t with
        | some n => pure (some n)
        | none => failWith p 1 ("invalid -".toList ++ c :: " argument ".toList ++ Quoting.cited t)
    let skip := (← number 'j').getD 0
    let count ← number 'N'
    let least ← number 'S'
    let least := if a.has 'σ' then some (((a.value? 'σ').bind size?).getD 3) else least
    let (found, rest) := contents p (orInput a.operands)
    let faults := found.filterMap fun (name, content) =>
      match content with
      | .ok _ => none
      | .error e => some (p.complaint (fileFault name e))
    let all : Bytes := found.flatMap fun (_, content) => content.toOption.getD []
    if faults.length = found.length then return conclude p rest faults
    if all.length < skip then
      return conclude p rest (faults ++ [p.complaint "cannot skip past end of combined input"])
    let b := all.drop skip
    let b := match count with
      | some n => b.take n
      | none => b
    let shown := match least with
      | some least => style.strings least skip [] b
      | none => style.dump skip b
    let code := if faults.isEmpty then 0 else 1
    return { p.leave code (faults ++ told ++ [(.output, Text.bytes shown)]) with input := rest }

end AliasShell.Tools
