/-
Sets of characters as ranges of code points, first and last of each, in ascending order.

Properties of characters are given by such tables.  Looking a code point up stops at the first range
that lies above it.
-/
import AliasShell.Text.Basic

namespace AliasShell

/-- Ranges of code points in ascending order. -/
abbrev Ranges := List (Nat × Nat)

/-- `n` lies in one of the ranges. -/
def Ranges.contains : Ranges → Nat → Bool
  | [], _ => false
  | (first, last) :: rest, n =>
    if n < first then false else if n ≤ last then true else Ranges.contains rest n

end AliasShell
