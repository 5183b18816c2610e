/-
Formats: texts with places for arguments, each with a way to write one.

A format is read once and written again as long as there are arguments for it; where they run out,
empty ones come in their place.  Two families of programs take formats; they differ in backslashes
and in the wording of complaints.
-/
import AliasShell.Machine.Number.Quantity
import AliasShell.Machine.Quoting
import AliasShell.Machine.Script.Sum

namespace AliasShell

/-- A width or precision: a number, or what an argument says. -/
inductive Extent where
  | given (n : Nat)
  | argument
  deriving Repr, DecidableEq

/-- A piece of a format. -/
inductive FormatPiece where
  | bytes (b : Bytes)
  /-- nothing more is written -/
  | stop
  | place (flags : Text) (width precision : Option Extent) (kind : Char)
  /-- a place that nothing can stand in -/
  | bad (t : Text)
  deriving Repr, DecidableEq

/-- The family of a program that takes formats. -/
inductive FormatFamily where
  /-- a script's own -/
  | script
  | tool
  deriving Repr, DecidableEq

namespace Format

/-! ### Reading -/

/-- The backslashes of a format. -/
def style : FormatFamily → EscapeStyle
  | .script => ⟨false, false, false⟩
  | .tool => ⟨true, false, true⟩

/-- A width or precision, and how many characters it took. -/
def extent? : Text → Option (Extent × Nat)
  | '*' :: _ => some (.argument, 1)
  | t =>
    let ds := t.takeWhile Char.isDigit
    if ds.isEmpty then none else some (.given (Integer.ofDigits ds), ds.length)

/-- The kinds of places. -/
def kinds : FormatFamily → Text
  | .script => "sbcdiuoxXfFeEgGaA"
  | .tool => "sbcdiuoxXfFeEgGaAq"

/-- How real numbers are kept. -/
def precision : FormatFamily → Precision
  | .script => .double
  | .tool => .extended

/-- The place after a `%`, and how many characters it took. -/
def place (f : FormatFamily) (t : Text) : FormatPiece × Nat :=
  let flags := t.takeWhile "-+ #0".toList.contains
  let rest := t.drop flags.length
  let (width, w) := match extent? rest with
    | some (e, n) => (some e, n)
    | none => (none, 0)
  let rest := rest.drop w
  let (precision, p) := match rest with
    | '.' :: more =>
      match extent? more with
      | some (e, n) => (some e, n + 1)
      | none => (some (.given 0), 1)
    | _ => (none, 0)
  let rest := rest.drop p
  let long := match f with
    | .script => []
    | .tool => rest.takeWhile "hlLjzt".toList.contains
  match rest.drop long.length with
  | [] => (.bad ('%' :: t), t.length)
  | k :: _ =>
    let n := flags.length + w + p + long.length + 1
    if (kinds f).contains k then (.place flags width precision k, n)
    else (.bad ('%' :: t.take n), n)

/-- The pieces of a format; at most `n`. -/
def pieces (f : FormatFamily) : Nat → Text → List FormatPiece
  | 0, _ => []
  | _, [] => []
  | n + 1, '\\' :: cs =>
    if (style f).ends && cs.head? == some 'c' then [.stop]
    else
      match (style f).after cs with
      | some (b, k) => .bytes [b] :: pieces f n (cs.drop k)
      | none => .bytes [92] :: pieces f n cs
  | n + 1, '%' :: '%' :: cs => .bytes [37] :: pieces f n cs
  | n + 1, '%' :: cs =>
    let (piece, k) := place f cs
    piece :: pieces f n (cs.drop k)
  | n + 1, c :: cs => .bytes [Text.byteOf c] :: pieces f n cs

/-! ### Writing -/

/-- What has been written so far. -/
structure Draft where
  args : List Text
  output : Bytes
  complaints : List Text
  stopped : Bool
  deriving Repr, DecidableEq

namespace Draft

/-- The next argument. -/
def take (d : Draft) : Option Text × Draft := (d.args.head?, { d with args := d.args.tail })

/-- The draft with more bytes. -/
def write (d : Draft) (b : Bytes) : Draft := { d with output := d.output ++ b }

/-- The draft with a complaint. -/
def complain (d : Draft) (t : Text) : Draft := { d with complaints := d.complaints ++ [t] }

end Draft

/-- What may be wrong with an argument that should be a number. -/
inductive NumberFault where
  | notNumber
  /-- it only begins with one -/
  | partly
  | outOfRange
  deriving Repr, DecidableEq

/-- The complaint about an argument that should be a number. -/
def numberComplaint (f : FormatFamily) (fault : NumberFault) (t : Text) : Text :=
  match f, fault with
  | .script, .notNumber => t ++ ": expected numeric value"
  | .script, .partly => t ++ ": not completely converted"
  | .script, .outOfRange => t ++ ": Numerical result out of range"
  | .tool, .notNumber => '\'' :: t ++ "': expected a numeric value".toList
  | .tool, .partly => '\'' :: t ++ "': value not completely converted".toList
  | .tool, .outOfRange => '\'' :: t ++ "': Numerical result out of range".toList

/-- The 64-bit integer nearest to a number, and whether it is another one.  Without a sign the
negative ones are counted from the other end, and one too far down is the greatest. -/
def inRange (signed : Bool) (v : Int) : Int × Bool :=
  if signed then
    let w := max Integer.least (min v Integer.greatest)
    (w, w != v)
  else
    let greatest : Int := 2 * Integer.greatest + 1
    if greatest < v.natAbs then (greatest, true) else (v, false)

/-- The number that an argument is, and what is to be said against it. -/
def number (f : FormatFamily) (signed : Bool) (arg : Option Text) : Int × Option Text :=
  match arg with
  | none => (0, none)
  | some t =>
    match t with
    | '\'' :: c :: _ => ((c.toNat : Int), none)
    | '"' :: c :: _ => ((c.toNat : Int), none)
    | [] => (0, none)
    | _ =>
      let body := t.dropWhile Script.Sum.isSpace
      let (sign, ds) := match body with
        | '-' :: ds => ((-1 : Int), ds)
        | '+' :: ds => (1, ds)
        | ds => (1, ds)
      match Script.Sum.readNumber ds with
      | some (v, rest) =>
        let (w, isOther) := inRange signed (sign * v)
        let faults : List NumberFault :=
          (if rest.isEmpty then [] else [.partly]) ++ if isOther then [.outOfRange] else []
        let fault := match f with
          | .script => faults.head?
          | .tool => faults.getLast?
        (w, fault.map fun e => numberComplaint f e t)
      | none => (0, some (numberComplaint f .notNumber t))

/-- The real number that an argument is, and what is to be said against it. -/
def real (f : FormatFamily) (arg : Option Text) : Quantity × Option Text :=
  let zero := Quantity.finite false 0 1
  match arg with
  | none => (zero, none)
  | some t =>
    match t with
    | '\'' :: c :: _ => (.finite false c.toNat 1, none)
    | '"' :: c :: _ => (.finite false c.toNat 1, none)
    | [] => (zero, none)
    | _ =>
      match Quantity.read? (precision f) t with
      | some r =>
        (r.value,
          if !r.rest.isEmpty then some (numberComplaint f .partly t)
          else if r.outOfRange then some (numberComplaint f .outOfRange t)
          else none)
      | none => (zero, some (numberComplaint f .notNumber t))

/-- Bytes that are at least `width` long, blanks on the left or right. -/
def pad (left : Bool) (width : Nat) (b : Bytes) : Bytes :=
  let blanks := List.replicate (width - b.length) (32 : UInt8)
  if left then b ++ blanks else blanks ++ b

/-- The digits of a number with at least so many digits, behind a sign; zeros fill a width if they
may. -/
def digitsText (flags : Text) (width : Nat) (precision : Option Nat) (sign ds : Text) : Text :=
  let ds := if precision = some 0 ∧ ds = ['0'] then [] else ds
  let ds := List.replicate (precision.getD 1 - ds.length) '0' ++ ds
  if flags.contains '0' && !flags.contains '-' && precision.isNone then
    sign ++ List.replicate (width - sign.length - ds.length) '0' ++ ds
  else sign ++ ds

/-- The sign that goes before a number. -/
def signText (flags : Text) (negative : Bool) : Text :=
  if negative then ['-'] else if flags.contains '+' then ['+'] else if flags.contains ' ' then [' ']
  else []

/-- A whole number as its kind wants it. -/
def integerText (flags : Text) (width : Nat) (precision : Option Nat) (kind : Char) (v : Int) :
    Text :=
  let unsigned := Script.Sum.bits v
  let alternate := flags.contains '#' && unsigned != 0
  match kind with
  | 'u' => digitsText flags width precision [] (Nat.toDigits 10 unsigned)
  | 'o' =>
    let ds := Nat.toDigits 8 unsigned
    digitsText flags width precision [] (if alternate then '0' :: ds else ds)
  | 'x' =>
    digitsText flags width precision (if alternate then "0x" else []) (Nat.toDigits 16 unsigned)
  | 'X' =>
    digitsText flags width precision (if alternate then "0X" else [])
      ((Nat.toDigits 16 unsigned).map Char.toUpper)
  | _ =>
    let sign := signText flags (decide (v < 0))
    digitsText flags width precision sign (Nat.toDigits 10 v.natAbs)

/-- The magnitude `num / den` with this many places. -/
def fixedText (places num den : Nat) : Text :=
  let scaled := Quantity.nearest (num * Nat.pow 10 places) den
  let ds := Nat.toDigits 10 scaled
  let ds := List.replicate (places + 1 - ds.length) '0' ++ ds
  let whole := ds.take (ds.length - places)
  if places = 0 then whole else whole ++ '.' :: ds.drop (ds.length - places)

/-- The exponent of the first digit of a fraction that is not 0. -/
def exponentOf (num den : Nat) : Int :=
  if den ≤ num then (Nat.toDigits 10 (num / den)).length - 1
  else
    let zeros := (Nat.toDigits 10 den).length - (Nat.toDigits 10 num).length
    if den ≤ num * Nat.pow 10 zeros then -zeros else -(zeros + 1)

/-- The digits of a fraction, as many as this after the first one, and the exponent of that. -/
def leadingDigits (places num den : Nat) : Text × Int :=
  if num = 0 then (List.replicate (places + 1) '0', 0)
  else
    let e := exponentOf num den
    let shift := (places : Int) - e
    let scaled :=
      if 0 ≤ shift then Quantity.nearest (num * Nat.pow 10 shift.natAbs) den
      else Quantity.nearest num (den * Nat.pow 10 shift.natAbs)
    let ds := Nat.toDigits 10 scaled
    if places + 1 < ds.length then (ds.dropLast, e + 1) else (ds, e)

/-- Digits with a point after the first one, and an exponent. -/
def scientificText (letter : Char) (ds : Text) (e : Int) : Text :=
  let mantissa := match ds with
    | [d] => [d]
    | d :: more => d :: '.' :: more
    | [] => []
  let power := Nat.toDigits 10 e.natAbs
  mantissa ++ letter :: (if e < 0 then '-' else '+') ::
    (List.replicate (2 - power.length) '0' ++ power)

/-- Digits without the zeros that they end with. -/
def withoutZeros (ds : Text) : Text := (ds.reverse.dropWhile (· == '0')).reverse

/-- A text with a point in it, without the zeros at its end. -/
def withoutPlaces (t : Text) : Text :=
  if t.contains '.' then
    let t := withoutZeros t
    if t.getLast? = some '.' then t.dropLast else t
  else t

/-- The magnitude `num / den` as its kind wants it. -/
def realText (flags : Text) (precision : Option Nat) (kind : Char) (num den : Nat) : Text :=
  let places := precision.getD 6
  let lower := kind.toLower
  let letter := if kind.isUpper then 'E' else 'e'
  if lower = 'f' then fixedText places num den
  else if lower = 'e' then
    let (ds, e) := leadingDigits places num den
    scientificText letter ds e
  else
    let count := max 1 places
    let (ds, e) := leadingDigits (count - 1) num den
    if e < -4 ∨ (count : Int) ≤ e then
      let kept := if flags.contains '#' then ds else
        match withoutZeros ds with
        | [] => ds.take 1
        | kept => kept
      scientificText letter kept e
    else
      let t := fixedText ((count : Int) - 1 - e).toNat num den
      if flags.contains '#' then t else withoutPlaces t

/-- The magnitude `num / den` in hexadecimal digits, the first of which stands for as many binary
ones as are left over when all the others stand for four. -/
def hexadecimalText (p : Precision) (places : Option Nat) (num den : Nat) : Text :=
  let most := (p.bits - 1) / 4
  let shown (digits : Text) (e : Int) : Text :=
    let ds := match digits with
      | [] => []
      | [d] => [d]
      | d :: more => d :: '.' :: more
    "0x".toList ++ ds ++ 'p' :: (if e < 0 then '-' else '+') :: Nat.toDigits 10 e.natAbs
  if num = 0 then shown ('0' :: List.replicate (places.getD 0) '0') 0
  else
    let e := Quantity.binaryExponent num den - (p.bits - 1)
    let (n, d) := Quantity.scaled num den (-e)
    let bits := n / d
    let e := e + 4 * most
    match places with
    | none =>
      match Nat.toDigits 16 bits with
      | d :: ds => shown (d :: withoutZeros ds) e
      | [] => []
    | some k =>
      let rounded := if most ≤ k then bits else Quantity.nearest bits (Nat.pow 16 (most - k))
      let ds := Nat.toDigits 16 rounded
      let ds := ds ++ List.replicate (k - most) '0'
      if k + 1 < ds.length then shown ds.dropLast (e + 4) else shown ds e

/-- The first text of digits with a point at its end, if there is none in it and one is wanted. -/
def pointed (flags t : Text) : Text :=
  if flags.contains '#' && !t.contains '.' then
    let ds := t.takeWhile Char.isDigit
    ds ++ '.' :: t.drop ds.length
  else t

/-- A real number as its kind wants it, at least so wide where zeros may fill it. -/
def quantityText (p : Precision) (flags : Text) (width : Nat) (places : Option Nat) (kind : Char)
    (q : Quantity) : Text :=
  let sign := signText flags q.isNegative
  let cased (t : Text) : Text := if kind.isUpper then t.map Char.toUpper else t
  match q with
  | .nan _ => sign ++ cased "nan"
  | .infinite _ => sign ++ cased "inf"
  | .finite _ num den =>
    if kind.toLower = 'a' then
      let t := hexadecimalText p places num den
      let zeros := flags.contains '0' && !flags.contains '-'
      let fill := if zeros then width - sign.length - t.length else 0
      sign ++ cased (t.take 2 ++ List.replicate fill '0' ++ t.drop 2)
    else digitsText flags width none sign (pointed flags (realText flags places kind num den))

/-- Writes one place. -/
def writePlace (f : FormatFamily) (flags : Text) (width precision : Option Nat) (kind : Char)
    (d : Draft) : Draft :=
  let w := width.getD 0
  let left := flags.contains '-'
  let (arg, d) := d.take
  if kind = 's' ∨ kind = 'q' then
    let t := arg.getD []
    let b := Text.bytes (if kind = 'q' then Quoting.ifNeeded t else t)
    d.write (pad left w (match precision with
      | some n => b.take n
      | none => b))
  else if kind = 'b' then
    let (b, ended) := EscapeStyle.bytes ⟨true, true, f == .tool⟩ (arg.getD [])
    let d := d.write (pad left w (match precision with
      | some n => b.take n
      | none => b))
    { d with stopped := d.stopped || ended }
  else if kind = 'c' then
    d.write (pad left w (match arg with
      | some (c :: cs) => (Text.bytes (c :: cs)).take 1
      | _ => [0]))
  else if "fFeEgGaA".toList.contains kind then
    let (q, fault) := real f arg
    let d := match fault with
      | some t => d.complain t
      | none => d
    d.write (pad left w (Text.bytes (quantityText (Format.precision f) flags w precision kind q)))
  else
    let (v, fault) := number f (kind == 'd' || kind == 'i') arg
    let d := match fault with
      | some t => d.complain t
      | none => d
    d.write (pad left w (Text.bytes (integerText flags w precision kind v)))

/-- No place is this wide. -/
def extentLimit : Nat := 2147483647

/-- The number that an extent is, and the draft after it.  A script's own has 32 bits, and that of a
tool has to fit into them; `what` is what it is the extent of. -/
def extentOf (f : FormatFamily) (what : Text) (e : Option Extent) (d : Draft) :
    Option Int × Draft :=
  match e with
  | none => (none, d)
  | some (.given n) => (some n, d)
  | some .argument =>
    let (arg, d) := d.take
    let (v, fault) := number f true arg
    let d := match fault with
      | some t => d.complain t
      | none => d
    match f with
    | .script => (some (Int.bmod v (2 * (extentLimit + 1))), d)
    | .tool =>
      let isWide : Bool := decide ((extentLimit : Int) < v)
      let isNarrow : Bool := decide (v < -(extentLimit + 1 : Int))
      if isWide || (isNarrow && what != "precision".toList) then
        (none, { d.complain ("invalid ".toList ++ what ++ ": '".toList ++ arg.getD [] ++ ['\''])
          with stopped := true })
      else (some v, d)

/-- The place is larger than what can be written. -/
def isTooLarge (width precision : Option Nat) (kind : Char) : Bool :=
  let isText := "sbcq".toList.contains kind
  width.any (extentLimit ≤ ·) || precision.any fun n => extentLimit + (if isText then 1 else 0) ≤ n

/-- The complaint about a place that nothing can stand in. -/
def badComplaint (f : FormatFamily) (t : Text) : Text :=
  match f with
  | .script =>
    if t = ['%'] then "missing format character" else t ++ ": invalid directive"
  | .tool => t ++ ": invalid conversion specification"

/-- Writes one piece. -/
def writePiece (f : FormatFamily) (d : Draft) (piece : FormatPiece) : Draft :=
  if d.stopped then d
  else
    match piece with
    | .bytes b => d.write b
    | .stop => { d with stopped := true }
    | .bad t => { d.complain (badComplaint f t) with stopped := true }
    | .place flags width precision kind =>
      let (w, d) := extentOf f "field width" width d
      let (p, d) := extentOf f "precision" precision d
      let flags := if (w.getD 0) < 0 then '-' :: flags else flags
      let p := match p with
        | some v => if v < 0 then none else some v.natAbs
        | none => none
      let width := w.map Int.natAbs
      if d.stopped then d
      else if isTooLarge width p kind then
        match f with
        | .script => { d.complain "xvsnprintf failed" with stopped := true }
        | .tool =>
          let d := d.take.2
          if d.complaints.contains "write error".toList then d else d.complain "write error"
      else writePlace f flags width p kind d

/-- The piece takes an argument. -/
def takesArgument : FormatPiece → Bool
  | .place .. => true
  | _ => false

/-- Writes the pieces again and again while arguments are left; at most `n` times more. -/
def writeAll (f : FormatFamily) (ps : List FormatPiece) : Nat → Draft → Draft
  | 0, d => d
  | n + 1, d =>
    let d := ps.foldl (writePiece f) d
    if d.stopped || d.args.isEmpty || !ps.any takesArgument then d else writeAll f ps n d

/-- Writes arguments in a format. -/
def write (f : FormatFamily) (format : Text) (args : List Text) : Draft :=
  writeAll f (pieces f format.length format) (args.length + 1) ⟨args, [], [], false⟩

end Format

end AliasShell
