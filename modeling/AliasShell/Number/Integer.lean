/-
Whole numbers: their decimal text, how digits are read, and the range of 64-bit integers.

The calculator computes on unbounded integers and asks `InRange` after every step, so a value that
has no 64-bit form is noticed where it arises.
-/
import AliasShell.Text.Basic

namespace AliasShell

/-- A digit from `0` to `9`. -/
def isDigit (c : Char) : Bool := c.isDigit

namespace Integer

/-- The least 64-bit integer. -/
def least : Int := -9223372036854775808

/-- The greatest 64-bit integer. -/
def greatest : Int := 9223372036854775807

/-- The integer has a 64-bit form. -/
def InRange (i : Int) : Prop := least ≤ i ∧ i ≤ greatest

instance (i : Int) : Decidable (InRange i) := by unfold InRange; infer_instance

/-- The decimal digits of a number, without leading zeros. -/
def digits (n : Nat) : Text := Nat.toDigits 10 n

/-- The decimal text of an integer. -/
def text (i : Int) : Text := if i < 0 then '-' :: digits i.natAbs else digits i.natAbs

/-- The number that a run of digits denotes. -/
def ofDigits (ds : Text) : Nat := ds.foldl (fun n d => 10 * n + (d.toNat - '0'.toNat)) 0

/-- Reads an optional sign and digits, and nothing else. -/
def ofText? (t : Text) : Option Int :=
  match t with
  | '-' :: ds => if !ds.isEmpty && ds.all isDigit then some (-(ofDigits ds : Int)) else none
  | '+' :: ds => if !ds.isEmpty && ds.all isDigit then some (ofDigits ds) else none
  | ds => if !ds.isEmpty && ds.all isDigit then some (ofDigits ds) else none

end Integer

end AliasShell
