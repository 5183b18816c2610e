/-
Binary64 numbers and fractions that are kept to as many digits: the two stand for each other.

A number that is none is written with a sign, as it comes out of a calculation.
-/
import AliasShell.Machine.Number.Quantity
import AliasShell.Number.Binary

namespace AliasShell

/-- The fraction that a binary64 number is. -/
def Float.quantity (x : Float) : Quantity :=
  match Float.exact x with
  | .nan => .nan true
  | .infinite negative => .infinite negative
  | .finite negative m =>
    if 0 ≤ m.exponent then .finite negative (m.mantissa * Nat.pow 2 m.exponent.toNat) 1
    else .finite negative m.mantissa (Nat.pow 2 (-m.exponent).toNat)

/-- The binary64 number that a fraction is, of one that is kept so: its denominator is a power of
two. -/
def Quantity.float (q : Quantity) : Float :=
  let signed (negative : Bool) (x : Float) : Float := if negative then -x else x
  match q with
  | .nan _ => 0.0 / 0.0
  | .infinite negative => signed negative (1.0 / 0.0)
  | .finite negative num den => signed negative (Binary.toFloat num (-(den.log2 : Int)))

/-- The binary64 number that a text begins with; 0 if it begins with none. -/
def Float.ofText (t : Text) : Float :=
  let body := t.dropWhile Quantity.isBlank
  if body.length < 16 && body.all Char.isDigit then Float.ofNat (Integer.ofDigits body)
  else
    match Quantity.read? .double body with
    | some r => r.value.float
    | none => 0.0

/-- The whole number up to a binary64 number, toward 0; one that is none counts as 0, and the
greatest and least ones of 64 binary digits come in place of those beyond. -/
def Float.whole (x : Float) : Int :=
  match Float.quantity x with
  | .nan _ => Integer.least
  | .infinite negative => if negative then Integer.least else Integer.greatest
  | .finite negative num den =>
    let n : Int := (num / den : Nat)
    max Integer.least (min Integer.greatest (if negative then -n else n))

/-- The whole number that a binary64 number is, if it is one that shows in full. -/
def Float.shownWhole? (x : Float) : Option Int :=
  match Float.quantity x with
  | .finite negative num den =>
    let n := num / den
    if n * den != num then none
    else if negative then if n ≤ Nat.pow 2 63 then some (-(n : Int)) else none
    else if n < Nat.pow 2 64 then some n
    else if n = Nat.pow 2 64 then some (Nat.pow 2 64 - 1 : Nat)
    else none
  | _ => none

example : Float.shownWhole? 1e15 = some 1000000000000000 := by decide +kernel
example : Float.shownWhole? 0.5 = none := by decide +kernel
example : Float.shownWhole? (-0.0) = some 0 := by decide +kernel

end AliasShell
