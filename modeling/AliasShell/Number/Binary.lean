/-
The exact value of a binary64 number, `mantissa · 2 ^ exponent` with a sign, and the remainder of a
division toward zero.

What is printed and the remainder are both decided on this form, in exact integer arithmetic.
`x - y · n` for the whole `n` nearest zero has an exact binary64 value, so the remainder is computed
on the exact values over a common power of two, and only written back as a number.
-/

namespace AliasShell

/-! ### The exact value -/

/-- A finite magnitude, `mantissa · 2 ^ exponent`. -/
structure Binary where
  mantissa : Nat
  exponent : Int
  /-- The next smaller value is only half as far away as the next greater one. -/
  narrowBelow : Bool
  deriving Repr, DecidableEq

/-- What a binary64 number is: not a number, infinite, or finite. -/
inductive Binary.Class where
  | nan
  | infinite (negative : Bool)
  | finite (negative : Bool) (magnitude : Binary)
  deriving Repr, DecidableEq

namespace Binary

/-- The magnitude with these exponent and fraction bits. -/
def ofFields (biased fraction : Nat) : Binary :=
  if biased = 0 then ⟨fraction, -1074, false⟩
  else ⟨Nat.pow 2 52 + fraction, (biased : Int) - 1075, fraction == 0 && decide (1 < biased)⟩

/-- The number that a bit pattern stands for. -/
def classify (bits : Nat) : Class :=
  let negative := bits / Nat.pow 2 63 % 2 == 1
  let biased := bits / Nat.pow 2 52 % Nat.pow 2 11
  let fraction := bits % Nat.pow 2 52
  if biased = Nat.pow 2 11 - 1 then
    if fraction = 0 then .infinite negative else .nan
  else .finite negative (ofFields biased fraction)

end Binary

/-- The exact value of a binary64 number. -/
def Float.exact (x : Float) : Binary.Class := Binary.classify x.toBits.toNat

/-! ### The remainder -/

namespace Binary

/-- `n · 2 ^ e` as a binary64 number, for values that have one. -/
def toFloat (n : Nat) (e : Int) : Float :=
  if 0 ≤ e then Float.ofNat (n * Nat.pow 2 e.toNat)
  else Float.ofScientific (n * Nat.pow 5 (-e).toNat) true (-e).toNat

/-- The remainder of two magnitudes over the smaller of their exponents. -/
def rem (x y : Binary) : Nat × Int :=
  let e := min x.exponent y.exponent
  let a := x.mantissa * Nat.pow 2 (x.exponent - e).toNat
  let b := y.mantissa * Nat.pow 2 (y.exponent - e).toNat
  (a % b, e)

end Binary

/-- The remainder toward zero.  It has the sign of `x`; there is none for an infinite `x` or a zero
`y`, and an infinite `y` leaves `x`. -/
def Float.remainder (x y : Float) : Float :=
  match Float.exact x, Float.exact y with
  | .finite negative a, .finite _ b =>
    if b.mantissa = 0 then 0.0 / 0.0
    else
      let (n, e) := Binary.rem a b
      let r := Binary.toFloat n e
      if negative then -r else r
  | .finite _ _, .infinite _ => x
  | _, _ => 0.0 / 0.0

example : Float.remainder 5.5 2.0 == 1.5 := by decide +kernel
example : (Float.remainder (-6.0) 3.0).toBits = (-0.0 : Float).toBits := by decide +kernel
example : Float.remainder 1e308 3.0 == 2.0 := by decide +kernel

end AliasShell
