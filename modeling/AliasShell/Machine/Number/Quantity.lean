/-
Numbers as programs compute with them: fractions that are kept to so many binary digits.

A text is read by its longest beginning that is a number, in decimal or hexadecimal digits, and the
value is the nearest one that the format has, of two equally near ones the even one.
-/
import AliasShell.Number.Integer

namespace AliasShell

/-- A number with a sign: the fraction of two whole numbers, an infinite one, or none at all. -/
inductive Quantity where
  | nan (negative : Bool)
  | infinite (negative : Bool)
  | finite (negative : Bool) (num den : Nat)
  deriving Repr, DecidableEq

/-- How numbers are kept. -/
structure Precision where
  /-- binary digits -/
  bits : Nat
  /-- every number is less than the power of two with this exponent -/
  most : Nat
  /-- every number but 0 is at least the inverse of the power of two with this exponent -/
  least : Nat
  deriving Repr, DecidableEq

namespace Precision

/-- The format with 53 binary digits. -/
def double : Precision := ⟨53, 1024, 1074⟩

/-- The format with 64 binary digits. -/
def extended : Precision := ⟨64, 16384, 16445⟩

end Precision

namespace Quantity

/-! ### Rounding -/

/-- The nearest whole number to a fraction, a half going to the even neighbour. -/
def nearest (num den : Nat) : Nat :=
  let q := num / den
  let twice := 2 * (num % den)
  if twice < den then q else if den < twice then q + 1 else q + q % 2

/-- The product of a fraction and a power of two. -/
def scaled (num den : Nat) (e : Int) : Nat × Nat :=
  if 0 ≤ e then (num * Nat.pow 2 e.toNat, den) else (num, den * Nat.pow 2 (-e).toNat)

/-- The exponent `e` with `2 ^ e ≤ num / den < 2 ^ (e + 1)`, for a fraction that is not 0. -/
def binaryExponent (num den : Nat) : Int :=
  let e : Int := (num.log2 : Int) - den.log2
  let (n, d) := scaled num den (-e)
  if n < d then e - 1 else e

/-- The number that a fraction is kept as. -/
def kept (p : Precision) (negative : Bool) (num den : Nat) : Quantity :=
  if num = 0 then .finite negative 0 1
  else
    let e := max (binaryExponent num den - (p.bits - 1)) (-p.least)
    let (n, d) := scaled num den (-e)
    let (n, d) := scaled (nearest n d) 1 e
    if Nat.pow 2 p.most * d ≤ n then .infinite negative else .finite negative n d

/-! ### Order and arithmetic -/

/-- The sign. -/
def isNegative : Quantity → Bool
  | .nan s => s
  | .infinite s => s
  | .finite s _ _ => s

/-- The fraction with its sign, of a number that is one. -/
def fraction : Quantity → Int × Nat
  | .finite s n d => (if s then -(n : Int) else n, d)
  | _ => (0, 1)

/-- Whether the number is less than another. -/
def less : Quantity → Quantity → Bool
  | .nan _, _ => false
  | _, .nan _ => false
  | .infinite true, .infinite true => false
  | .infinite true, _ => true
  | .infinite false, _ => false
  | .finite .., .infinite s => !s
  | .finite s n d, .finite s' n' d' =>
    let (a, b) := fraction (.finite s n d)
    let (a', b') := fraction (.finite s' n' d')
    decide (a * b' < a' * b)

/-- Whether two numbers have the same value. -/
def same (x y : Quantity) : Bool :=
  match x, y with
  | .nan _, _ => false
  | _, .nan _ => false
  | _, _ => !less x y && !less y x

/-- The number is 0. -/
def isZero : Quantity → Bool
  | .finite _ n _ => n == 0
  | _ => false

/-- The number is a fraction. -/
def isFinite : Quantity → Bool
  | .finite .. => true
  | _ => false

/-- The sum of a number and so many times another. -/
def plus (p : Precision) (x : Quantity) (times : Nat) (y : Quantity) : Quantity :=
  match x, y with
  | .finite s n d, .finite s' n' d' =>
    let (b, d') := match kept p s' (n' * times) d' with
      | .finite s n d => ((fraction (.finite s n d)).1, d)
      | _ => (0, d')
    let a := (fraction (.finite s n d)).1
    let sum := a * d' + b * d
    kept p (decide (sum < 0)) sum.natAbs (d * d')
  | .finite .., y => y
  | x, _ => x

/-! ### Reading -/

/-- What a text begins with, as a number. -/
structure Reading where
  value : Quantity
  rest : Text
  /-- no number is as large or as small as what stands there -/
  outOfRange : Bool
  deriving Repr, DecidableEq

/-- A blank in front of a number. -/
def isBlank (c : Char) : Bool := " \t\n\x0b\x0c\r".toList.contains c

/-- The value of a digit. -/
def digitValue (c : Char) : Nat :=
  if c.isDigit then c.toNat - '0'.toNat else c.toLower.toNat - 'a'.toNat + 10

/-- A digit of the base. -/
def isDigitOf (base : Nat) (c : Char) : Bool :=
  (c.isDigit || (c.isAlpha && c.toNat < 128)) && decide (digitValue c < base)

/-- Digits with a point among them: all of them, how many are behind the point, and the rest. -/
def digits? (base : Nat) (t : Text) : Option (Text × Nat × Text) :=
  let whole := t.takeWhile (isDigitOf base)
  let rest := t.drop whole.length
  let (places, rest) := match rest with
    | '.' :: more =>
      let places := more.takeWhile (isDigitOf base)
      (places, if whole.isEmpty && places.isEmpty then rest else more.drop places.length)
    | _ => ([], rest)
  if whole.isEmpty && places.isEmpty then none else some (whole ++ places, places.length, rest)

/-- An exponent behind one of two letters, and the rest; 0 if there is none. -/
def exponent (letters : Text) (t : Text) : Int × Text :=
  match t with
  | c :: cs =>
    if letters.contains c then
      let (sign, ds) : Int × Text := match cs with
        | '-' :: ds => (-1, ds)
        | '+' :: ds => (1, ds)
        | ds => (1, ds)
      let run := ds.takeWhile Char.isDigit
      if run.isEmpty then (0, t) else (sign * Integer.ofDigits run, ds.drop run.length)
    else (0, t)
  | [] => (0, [])

/-- The greatest exponent that makes a difference. -/
def farthest : Int := 20000

/-- The number whose digits these are, times a power of a base. -/
def ofDigits (p : Precision) (negative : Bool) (base : Nat) (ds : Text) (power : Nat) (e : Int) :
    Quantity :=
  let n := ds.foldl (fun n c => base * n + digitValue c) 0
  if n = 0 then .finite negative 0 1
  else
    let far := farthest + 4 * ds.length
    let e := max (-far) (min far e)
    if 0 ≤ e then kept p negative (n * Nat.pow power e.toNat) 1
    else kept p negative n (Nat.pow power (-e).toNat)

/-- A text that begins with a word, in letters of any size. -/
def word? (w : String) (t : Text) : Option Text :=
  let w := w.toList
  if (t.take w.length).map Char.toLower = w then some (t.drop w.length) else none

/-- The number that a text begins with, behind its sign. -/
def readMagnitude? (p : Precision) (negative : Bool) (t : Text) : Option Reading :=
  let found (zero : Bool) (value : Quantity) (rest : Text) : Option Reading :=
    some ⟨value, rest, !isFinite value || (isZero value && !zero)⟩
  let isNone (ds : Text) : Bool := ds.all (· == '0')
  let decimal : Option Reading :=
    (digits? 10 t).bind fun (ds, places, rest) =>
      let (e, rest) := exponent "eE" rest
      found (isNone ds) (ofDigits p negative 10 ds 10 (e - places)) rest
  let hexadecimal : Option Reading :=
    match t with
    | '0' :: x :: more =>
      if x = 'x' ∨ x = 'X' then
        (digits? 16 more).bind fun (ds, places, rest) =>
          let (e, rest) := exponent "pP" rest
          found (isNone ds) (ofDigits p negative 16 ds 2 (e - 4 * places)) rest
      else none
    | _ => none
  let infinity := (word? "infinity" t).orElse fun _ => word? "inf" t
  match infinity, word? "nan" t with
  | some rest, _ => some ⟨.infinite negative, rest, false⟩
  | _, some rest => some ⟨.nan negative, rest, false⟩
  | none, none => hexadecimal.orElse fun _ => decimal

/-- The number that a text begins with. -/
def read? (p : Precision) (t : Text) : Option Reading :=
  match t.dropWhile isBlank with
  | '-' :: t => readMagnitude? p true t
  | '+' :: t => readMagnitude? p false t
  | t => readMagnitude? p false t

end Quantity

end AliasShell
