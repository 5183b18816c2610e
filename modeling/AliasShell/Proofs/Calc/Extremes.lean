/-
`min` and `max` of two integers.

Both compare binary64 numbers, and to be compared an integer is rounded to 53 binary digits.
Rounding keeps the order, so integers that it keeps apart are compared rightly.  Of two that it
makes equal the first argument is taken, `least_of_rounded` and `greatest_of_rounded`, be it the
right one or not.  None of that shows below 2⁵³, where nothing is rounded.
-/
import AliasShell.Proofs.Calc.Overflow
import AliasShell.Proofs.Calc.Range
import AliasShell.Proofs.Number.Conversion

namespace AliasShell

open AliasShell.Tree

namespace Integer

/-- The first of two integers unless it is greater when rounded: the lesser one, but the first of
two that are rounded alike. -/
theorem least_of_rounded (a b : Int) :
    (if rounded a ≤ rounded b then a else b) =
      if b < a ∧ rounded a = rounded b then a else min a b := by
  rcases le_or_gt a b with hle | hlt
  · rw [if_pos (rounded_mono hle), if_neg fun h => absurd h.1 (Int.not_lt.mpr hle),
      Int.min_eq_left hle]
  · have hmono : rounded b ≤ rounded a := rounded_mono (Int.le_of_lt hlt)
    rw [Int.min_eq_right (Int.le_of_lt hlt)]
    by_cases heq : rounded a = rounded b
    · rw [if_pos (Int.le_of_eq heq), if_pos ⟨hlt, heq⟩]
    · rw [if_neg fun hle => heq (Int.le_antisymm hle hmono), if_neg fun h => heq h.2]

/-- The first of two integers unless it is less when rounded. -/
theorem greatest_of_rounded (a b : Int) :
    (if rounded b ≤ rounded a then a else b) =
      if a < b ∧ rounded a = rounded b then a else max a b := by
  -- it is the one that is left of the two by the lesser one
  have hleast := least_of_rounded b a
  simp only [eq_comm (a := rounded b)] at hleast
  split_ifs at hleast ⊢ <;> omega

/-- Integers up to 2⁵³ are not rounded alike. -/
theorem eq_of_rounded_eq {a b : Int} (ha : a.natAbs ≤ 2 ^ 53) (hb : b.natAbs ≤ 2 ^ 53)
    (h : rounded a = rounded b) : a = b := by
  rwa [rounded_of_le ha, rounded_of_le hb] at h

end Integer

/-! ### Calls -/

section Calls

variable {name : Text} {a b : Int}

theorem call_min (hname : Function.ofName? name = some .min) (ha : Integer.InRange a)
    (hb : Integer.InRange b) :
    Value.call name [.int a, .int b] =
      .ok (.int (if b < a ∧ Integer.rounded a = Integer.rounded b then a else min a b)) := by
  rw [← Integer.least_of_rounded, Value.call, hname]
  show Except.ok (Value.int (if decide (Float.ofInt a ≤ Float.ofInt b) = true then a else b)) = _
  simp only [decide_eq_true_eq, Float.ofInt_le_ofInt_iff ha hb]

theorem call_max (hname : Function.ofName? name = some .max) (ha : Integer.InRange a)
    (hb : Integer.InRange b) :
    Value.call name [.int a, .int b] =
      .ok (.int (if a < b ∧ Integer.rounded a = Integer.rounded b then a else max a b)) := by
  rw [← Integer.greatest_of_rounded, Value.call, hname]
  show Except.ok (Value.int (if decide (Float.ofInt b ≤ Float.ofInt a) = true then a else b)) = _
  simp only [decide_eq_true_eq, Float.ofInt_le_ofInt_iff hb ha]

end Calls

section

variable {text name : Text} {A B : Phrase .expr}

/-- A call of two arguments has the value of the function at their values. -/
theorem evaluate_call (hlex : tokens text = .ok (calling name (.more A (.last B))).tokens)
    {v w u : Value} (hA : A.eval = .ok v) (hB : B.eval = .ok w)
    (hcall : Value.call name [v, w] = .ok u) :
    evaluate text =
      if (calling name (.more A (.last B))).nesting ≤ 256 then .ok u
      else .error (.tooDeep 256) := by
  refine evaluate_of_eval_eq_ok hlex ?_
  show (Tree.call name (.more A (.last B))).eval = _
  rw [eval_call_more_last, hA, Except.ok_bind, hB, Except.ok_bind, hcall]

/-- **`min` and `max` are exact unless their arguments are rounded alike.**

Let `A` and `B` be expressions with the integers `a` and `b` for values.  Then `min(A, B)` is the
lesser of the two, except that it is `a` where `b` is less but is the same number when both are
rounded to 53 binary digits; and so for `max` and the greater one.  Neither exception occurs up to
2⁵³.  Nested too deeply, as anything else, the calls have no value. -/
theorem evaluate_extremes {a b : Int}
    (hlex : tokens text = .ok (calling name (.more A (.last B))).tokens)
    (hA : A.eval = .ok (.int a)) (hB : B.eval = .ok (.int b)) :
    (Function.ofName? name = some .min →
      evaluate text =
        if (calling name (.more A (.last B))).nesting ≤ 256 then
          .ok (.int (if b < a ∧ Integer.rounded a = Integer.rounded b then a else min a b))
        else .error (.tooDeep 256)) ∧
    (Function.ofName? name = some .max →
      evaluate text =
        if (calling name (.more A (.last B))).nesting ≤ 256 then
          .ok (.int (if a < b ∧ Integer.rounded a = Integer.rounded b then a else max a b))
        else .error (.tooDeep 256)) ∧
    (a.natAbs ≤ 2 ^ 53 → b.natAbs ≤ 2 ^ 53 → Integer.rounded a = Integer.rounded b → a = b) := by
  have ha : Integer.InRange a :=
    fits_of_eval_phrase hlex (fun token hm => by simp [calling, Tree.tokens, hm]) hA
  have hb : Integer.InRange b :=
    fits_of_eval_phrase hlex (fun token hm => by simp [calling, Tree.tokens, hm]) hB
  refine ⟨fun hname => ?_, fun hname => ?_, Integer.eq_of_rounded_eq⟩
  · exact evaluate_call hlex hA hB (call_min hname ha hb)
  · exact evaluate_call hlex hA hB (call_max hname ha hb)

end

/-! ### Two numbers -/

/-- A call with two numbers. -/
def callingNumbers (name : Text) (a b : Nat) : Phrase .expr :=
  calling name (.more (.operand (.operand (Integer.literal a)))
    (.last (.operand (.operand (Integer.literal b)))))

theorem tokens_callingNumbers {c : Char} (n : Text) (hstart : Token.startsName c = true)
    (hrun : n.all Token.continuesName = true) (a b : Nat)
    (hfits : Integer.InRange a ∧ Integer.InRange b) :
    tokens (c :: n ++ '(' :: (Integer.digits a ++ ',' :: ' ' :: (Integer.digits b ++ [')']))) =
      .ok (callingNumbers (c :: n) a b).tokens := by
  have hspells : Spells
      (c :: n ++ '(' :: (Integer.digits a ++ ',' :: ' ' :: (Integer.digits b ++ [')'])))
      (callingNumbers (c :: n) a b).tokens :=
    .name hstart (List.all_eq_true.mp hrun) (by rintro d ⟨⟩; rfl) (.symbol rfl
      (Integer.spells_digits a (by rintro d ⟨⟩; rfl) (.symbol rfl (.blank rfl
        (Integer.spells_digits b (by rintro d ⟨⟩; rfl) (.symbol rfl .nil))))))
  refine tokens_of_spells_of_fits hspells (Token.forall_fits_iff.mpr fun i hi => ?_)
  have hi : i = a ∨ i = b := by
    simpa [callingNumbers, calling, Integer.literal, Tree.tokens] using hi
  rcases hi with rfl | rfl
  · exact hfits.1
  · exact hfits.2

/-- Of 7 and 3, and of the greatest integer and the one before it, which are rounded alike. -/
theorem evaluate_extremes_numbers :
    (evaluate "min(7, 3)" = .ok (.int 3) ∧ evaluate "MAX(7, 3)" = .ok (.int 7)) ∧
      evaluate "min(9223372036854775807, 9223372036854775806)" =
        .ok (.int 9223372036854775807) := by
  have hmin := tokens_callingNumbers (c := 'm') ['i', 'n'] rfl rfl 7 3 (by decide)
  have hmax := tokens_callingNumbers (c := 'M') ['A', 'X'] rfl rfl 7 3 (by decide)
  have hgreat := tokens_callingNumbers (c := 'm') ['i', 'n'] rfl rfl 9223372036854775807
    9223372036854775806 (by decide)
  exact ⟨⟨(evaluate_extremes hmin rfl rfl).1 rfl, (evaluate_extremes hmax rfl rfl).2.1 rfl⟩,
    (evaluate_extremes hgreat rfl rfl).1 rfl⟩

/-- Of two neighbours that are rounded alike, `min` takes the greater one and `max` the lesser one
where it comes first. -/
theorem evaluate_extremes_rounded :
    (evaluate "9007199254740992" = .ok (.int 9007199254740992) ∧
      evaluate "9007199254740993" = .ok (.int 9007199254740993)) ∧
    evaluate "min(9007199254740993, 9007199254740992)" = .ok (.int 9007199254740993) ∧
    evaluate "max(9007199254740992, 9007199254740993)" = .ok (.int 9007199254740992) := by
  have hmin := tokens_callingNumbers (c := 'm') ['i', 'n'] rfl rfl 9007199254740993
    9007199254740992 (by decide)
  have hmax := tokens_callingNumbers (c := 'm') ['a', 'x'] rfl rfl 9007199254740992
    9007199254740993 (by decide)
  exact ⟨⟨evaluate_text_int (i := 9007199254740992) (by decide),
    evaluate_text_int (i := 9007199254740993) (by decide)⟩,
    evaluate_call hmin rfl rfl (call_min rfl (by decide) (by decide)),
    evaluate_call hmax rfl rfl (call_max rfl (by decide) (by decide))⟩

end AliasShell
