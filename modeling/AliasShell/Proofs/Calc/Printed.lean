/-
The characters of a printed value.

A value is printed in digits, with a sign and a point where it has them; a binary64
number that is not finite is printed as a word.  What matters is what does not occur:
nothing that a variable could not hold, so a result can always be stored.
-/
import AliasShell.Calc.Value
import AliasShell.Environment.Basic

namespace AliasShell

/-- The characters that values are printed in: digits, and those of signs, points and the words for
numbers that are not finite. -/
def Value.IsPrinted (c : Char) : Prop := isDigit c = true ∨ c ∈ "-.NaNinf".toList

theorem Integer.isDigit_of_mem_digits {n : Nat} {c : Char} (h : c ∈ digits n) :
    isDigit c = true :=
  Nat.isDigit_of_mem_toDigits (by decide) (by decide) h

/-- Decimals are written in digits and a point. -/
theorem Decimal.isPrinted_positional (d : Decimal) : ∀ c ∈ d.positional, Value.IsPrinted c := by
  have hdigit : ∀ c ∈ Integer.digits d.digits, Value.IsPrinted c := fun c hc =>
    Or.inl (Integer.isDigit_of_mem_digits hc)
  have hzero : ∀ n, ∀ c ∈ zeros n, Value.IsPrinted c := fun n c hc =>
    Or.inl (List.eq_of_mem_replicate hc ▸ rfl)
  have hpoint : Value.IsPrinted '.' := Or.inr (by decide)
  unfold positional
  simp only
  split
  · split
    · exact List.forall_mem_singleton.mpr (Or.inl rfl)
    · exact List.forall_mem_append.mpr ⟨hdigit, hzero _⟩
  · split
    · refine List.forall_mem_append.mpr ⟨fun c hc => hdigit c (List.mem_of_mem_take hc), ?_⟩
      exact List.forall_mem_cons.mpr ⟨hpoint, fun c hc => hdigit c (List.mem_of_mem_drop hc)⟩
    · refine List.forall_mem_append.mpr ⟨?_, hdigit⟩
      exact List.forall_mem_cons.mpr ⟨Or.inl rfl, List.forall_mem_cons.mpr ⟨hpoint, hzero _⟩⟩

namespace Value

theorem isPrinted_cons_minus {t : Text} (h : ∀ c ∈ t, IsPrinted c) : ∀ c ∈ '-' :: t, IsPrinted c :=
  List.forall_mem_cons.mpr ⟨Or.inr (by decide), h⟩

theorem isPrinted_int (i : Int) : ∀ c ∈ Integer.text i, IsPrinted c := by
  have hdigits : ∀ c ∈ Integer.digits i.natAbs, IsPrinted c := fun c hc =>
    Or.inl (Integer.isDigit_of_mem_digits hc)
  unfold Integer.text
  split
  · exact isPrinted_cons_minus hdigits
  · exact hdigits

theorem isPrinted_float (x : Float) : ∀ c ∈ Float.text x, IsPrinted c := by
  have hword : ∀ t : Text, t ⊆ "-.NaNinf".toList → ∀ c ∈ t, IsPrinted c := fun t ht c hc =>
    Or.inr (ht hc)
  unfold Float.text
  split
  · exact hword "NaN" (by decide)
  · split
    · exact hword "-inf" (by decide)
    · exact hword "inf" (by decide)
  · simp only
    split
    · exact isPrinted_cons_minus (Decimal.isPrinted_positional _)
    · exact Decimal.isPrinted_positional _

/-- Values are printed in these characters only. -/
theorem isPrinted_text (v : Value) : ∀ c ∈ v.text, IsPrinted c := by
  cases v with
  | int i => exact isPrinted_int i
  | float x => exact isPrinted_float x

/-- **A variable can hold any value.** -/
theorem validValue_text (v : Value) : Environment.ValidValue v.text := by
  intro hnul
  rcases isPrinted_text v _ hnul with hdigit | hother
  · cases hdigit
  · revert hother
    decide

end Value

end AliasShell
