/-
The text of a binary64 number: the fewest decimal digits that read back as the same number, always
written out in place, never with an exponent.  A whole number has no point, and the sign is kept on
zero.

A decimal reads back as `x` when it lies in the interval of reals that round to `x`: from half way
to the value below to half way to the value above, ends included when the mantissa is even.  The
search looks at grids of one digit, two digits and so on, and on each grid at the two points around
`x`.  If any point of a grid lies in the interval, so does one of these two, so the first grid with
a hit has the fewest digits.  Everything is compared by cross-multiplication in `Nat`.
-/
import AliasShell.Number.Binary
import AliasShell.Number.Integer

namespace AliasShell

/-! ### The fewest digits -/

/-- The decimal `digits · 10 ^ exponent`. -/
structure Decimal where
  digits : Nat
  exponent : Int
  deriving Repr, DecidableEq

namespace Decimal

/-- Compares `a · 10 ^ i` with `b · 2 ^ j`. -/
def compareScaled (a : Nat) (i : Int) (b : Nat) (j : Int) : Ordering :=
  compare (a * Nat.pow 10 i.toNat * Nat.pow 2 (-j).toNat)
    (b * Nat.pow 2 j.toNat * Nat.pow 10 (-i).toNat)

/-- The decimal lies among the reals that round to `x`. -/
def readsBackAs (d : Decimal) (x : Binary) : Bool :=
  let low := if x.narrowBelow then 4 * x.mantissa - 1 else 4 * x.mantissa - 2
  let high := 4 * x.mantissa + 2
  let closed := x.mantissa % 2 == 0
  let atLow := compareScaled d.digits d.exponent low (x.exponent - 2)
  let atHigh := compareScaled d.digits d.exponent high (x.exponent - 2)
  (atLow == .gt || (closed && atLow == .eq)) && (atHigh == .lt || (closed && atHigh == .eq))

/-- The number of units of `10 ^ i` in `x`, rounded down. -/
def unitsIn (x : Binary) (i : Int) : Nat :=
  (x.mantissa * Nat.pow 2 x.exponent.toNat * Nat.pow 10 (-i).toNat) /
    (Nat.pow 10 i.toNat * Nat.pow 2 (-x.exponent).toNat)

/-- Of the two points around `x` on the grid of `10 ^ i`, the one that reads back; if both do, the
nearer, and the upper one when `x` lies half way. -/
def onGrid? (x : Binary) (i : Int) : Option Decimal :=
  let n := unitsIn x i
  let lower : Decimal := ⟨n, i⟩
  let upper : Decimal := ⟨n + 1, i⟩
  match lower.readsBackAs x, upper.readsBackAs x with
  | true, true =>
    if compareScaled (2 * n + 1) i (2 * x.mantissa) x.exponent == .gt then some lower
    else some upper
  | true, false => some lower
  | false, true => some upper
  | false, false => none

/-- The least `k` with `x < 10 ^ k`, looked for upward from `k`. -/
def scaleFrom (x : Binary) : Nat → Int → Int
  | 0, k => k
  | fuel + 1, k =>
    if compareScaled 1 k x.mantissa x.exponent == .gt then k else scaleFrom x fuel (k + 1)

/-- The least `k` with `x < 10 ^ k`.  The binary logarithm gives a start at most a few steps below,
since `2 ^ b ≤ x` and `b · 0.30 ≤ b · log 2`, with a correction where `b` is negative. -/
def scale (x : Binary) : Int :=
  let b : Int := x.mantissa.log2 + x.exponent
  scaleFrom x 400 (if 0 ≤ b then b * 30 / 100 else b * 31 / 100 - 1)

/-- The first hit on the grids of `1 + used` digits and more; the exact value if `fuel` runs out,
which seventeen digits never let happen. -/
def search (x : Binary) (k : Int) : Nat → Nat → Decimal
  | 0, _ =>
    if 0 ≤ x.exponent then ⟨x.mantissa * Nat.pow 2 x.exponent.toNat, 0⟩
    else ⟨x.mantissa * Nat.pow 5 (-x.exponent).toNat, x.exponent⟩
  | fuel + 1, used =>
    match onGrid? x (k - used - 1) with
    | some d => d
    | none => search x k fuel (used + 1)

/-- The decimal of fewest digits that reads back as `x`, the one nearest to `x` among those. -/
def shortest (x : Binary) : Decimal :=
  if x.mantissa = 0 then ⟨0, 0⟩ else search x (scale x) 17 0

end Decimal

/-! ### The digits in place -/

namespace Decimal

/-- Zeros. -/
def zeros (n : Nat) : Text := List.replicate n '0'

/-- The digits in place: zeros after them, the point inside, or the point and zeros before. -/
def positional (d : Decimal) : Text :=
  let ds := Integer.digits d.digits
  if 0 ≤ d.exponent then
    if d.digits = 0 then ['0'] else ds ++ zeros d.exponent.toNat
  else
    let places := (-d.exponent).toNat
    if places < ds.length then
      ds.take (ds.length - places) ++ '.' :: ds.drop (ds.length - places)
    else '0' :: '.' :: zeros (places - ds.length) ++ ds

/-- The decimal without zeros at the end of its digits. -/
def stripZeros : Nat → Decimal → Decimal
  | 0, d => d
  | fuel + 1, d =>
    if d.digits ≠ 0 ∧ d.digits % 10 = 0 then stripZeros fuel ⟨d.digits / 10, d.exponent + 1⟩ else d

end Decimal

/-- The text of a binary64 number. -/
def Float.text (x : Float) : Text :=
  match Float.exact x with
  | .nan => "NaN"
  | .infinite negative => if negative then "-inf" else "inf"
  | .finite negative m =>
    let digits := ((Decimal.shortest m).stripZeros 400).positional
    if negative then '-' :: digits else digits

example : Float.text 0.1 = "0.1".toList := by decide +kernel
example : Float.text 2.98023223876953125e-8 = "0.000000029802322387695313".toList := by
  decide +kernel
example : Float.text 1e23 = "100000000000000000000000".toList := by decide +kernel
example : Float.text (-0.0) = "-0".toList := by decide +kernel

end AliasShell
