/-
What programs over records compute with.

A value is a number or a text, or both: a text that came from outside and looks like a number is
compared as one.  A variable that was never set is 0 among numbers and empty among texts.
-/
import AliasShell.Machine.Format
import AliasShell.Machine.Number.Double

namespace AliasShell.Tools.Records

/-- A value. -/
inductive Value where
  | unset
  | number (x : Float)
  | text (t : Text)
  /-- a text from outside that looks like a number -/
  | numeral (t : Text) (x : Float)

namespace Value

/-- A blank between fields. -/
def isBlank (c : Char) : Bool :=
  c == ' ' || c == '\t' || c == '\n' || c == '\x0b' || c == '\x0c' || c == '\x0d'

/-- A text without the blanks at its ends. -/
def trimmed (t : Text) : Text := ((t.dropWhile isBlank).reverse.dropWhile isBlank).reverse

/-- The value of a text from outside. -/
def ofOutside (t : Text) : Value :=
  let body := trimmed t
  match body.head?, body.getLast? with
  | some first, some last =>
    if !(last.isDigit || last == '.') || !(first.isDigit || "+-.".toList.contains first) then
      .text t
    else if body.length < 16 && body.all Char.isDigit then
      .numeral t (Float.ofNat (Integer.ofDigits body))
    else
      match Quantity.read? .double body with
      | some ⟨value, [], _⟩ => .numeral t value.float
      | _ => .text t
  | _, _ => .text t

/-- The number that a value is. -/
def float : Value → Float
  | .unset => 0.0
  | .number x => x
  | .text t => Float.ofText t
  | .numeral _ x => x

/-- The value of a truth. -/
def ofBool (b : Bool) : Value := .number (if b then 1.0 else 0.0)

/-- The value of a whole number. -/
def ofNat (n : Nat) : Value := .number (Float.ofNat n)

/-- A value counts as true. -/
def truth : Value → Bool
  | .unset => false
  | .number x => x != 0.0
  | .text t => !t.isEmpty
  | .numeral _ x => x != 0.0

/-- A number in a format that has one place for it. -/
def formatted (format : Text) (x : Float) : Text :=
  let q := Float.quantity x
  if format = "%.6g".toList then Format.quantityText .double [] 0 (some 6) 'g' q
  else
    (Format.pieces .script format.length format).flatMap fun
      | .bytes b => Bytes.numbered b
      | .place flags width precision kind =>
        let extent : Option Extent → Option Nat
          | some (.given n) => some n
          | _ => none
        let w := (extent width).getD 0
        let t :=
          if "fFeEgGaA".toList.contains kind then
            Format.quantityText .double flags w (extent precision) kind q
          else Format.integerText flags w (extent precision) kind (Float.whole x)
        Bytes.numbered (Format.pad (flags.contains '-') w (Text.bytes t))
      | _ => []

/-- A number as a text: a whole one in full, any other in a format. -/
def numberText (format : Text) (x : Float) : Text :=
  match Float.shownWhole? x with
  | some n => Integer.text n
  | none => formatted format x

/-- A value as a text; `format` is that of numbers that are not whole. -/
def shown (format : Text) : Value → Text
  | .unset => []
  | .number x => numberText format x
  | .text t => t
  | .numeral t _ => t

/-- The order of two values: as numbers if both are, and as texts otherwise. -/
def compare (format : Text) (a b : Value) : Ordering :=
  let isText : Value → Bool
    | .text _ => true
    | _ => false
  if isText a || isText b then
    let (s, t) := (shown format a, shown format b)
    if s == t then .eq else if s < t then .lt else .gt
  else
    let (x, y) := (a.float, b.float)
    if x < y then .lt else if x == y then .eq else .gt

end Value

end AliasShell.Tools.Records
