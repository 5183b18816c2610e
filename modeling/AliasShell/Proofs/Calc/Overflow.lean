/-
When an overflow is one.

An overflow should say that an integer has no 64-bit form.  Of all that the calculator does to
integers there are two things for which it may say so in vain, `RefusedInVain`: a power of 0, 1 or
-1 whose exponent has more than 32 bits, and the remainder of the least integer by -1, which is 0
while the quotient beside it does not fit.  `refusedInVain_iff` says that no other operation is
refused although its result fits.

An expression of integers that comes to an overflow has thus a number that does not fit, or a first
operation with a fault, whose operands were computed exactly, and which has a result that does not
fit or is one of those two: `evaluate_overflow`.
-/
import AliasShell.Proofs.Calc.Exact

namespace AliasShell

open AliasShell.Tree

namespace IntOperation

/-! ### Operations that are refused -/

/-- The operation overflows though its result would fit. -/
def RefusedInVain : IntOperation → Prop
  | .pow b e => b.natAbs ≤ 1 ∧ 4294967295 < e
  | .binary .rem a b => a = Integer.least ∧ b = -1
  | _ => False

instance : DecidablePred RefusedInVain
  | .pow b e => inferInstanceAs (Decidable (b.natAbs ≤ 1 ∧ 4294967295 < e))
  | .binary .rem a b => inferInstanceAs (Decidable (a = Integer.least ∧ b = -1))
  | .binary .add _ _ | .binary .sub _ _ | .binary .mul _ _ | .binary .div _ _ | .neg _ | .abs _ =>
    inferInstanceAs (Decidable False)

theorem fault_eq_overflow_iff {o : IntOperation} :
    o.fault = some .overflow ↔
      ¬ o.DividesByZero ∧ ¬ (o.Admissible ∧ Integer.InRange o.result) := by
  unfold fault
  by_cases hzero : o.DividesByZero
  · simp [hzero]
  · by_cases hfine : o.Admissible ∧ Integer.InRange o.result
    · simp [hzero, hfine]
    · simp only [hzero, hfine, if_false, not_false_eq_true, and_self]

/-- **These operations are refused in vain, and no others.** -/
theorem refusedInVain_iff {o : IntOperation} :
    o.RefusedInVain ↔ o.fault = some .overflow ∧ Integer.InRange o.result := by
  rw [fault_eq_overflow_iff]
  constructor
  · intro h
    cases o with
    | binary op a b =>
        cases op with
        | rem =>
            obtain ⟨rfl, rfl⟩ := h
            decide
        | _ => cases h
    | neg a => cases h
    | abs a => cases h
    | pow b e =>
        obtain ⟨hb, he⟩ := h
        have hexponent : ¬ (IntOperation.pow b e).Admissible := fun hle => by
          have hle : e ≤ 4294967295 := hle
          omega
        refine ⟨⟨id, fun hfine => hexponent hfine.1⟩, ?_⟩
        have hbase : b = 0 ∨ b = 1 ∨ b = -1 := by omega
        show Integer.InRange (b ^ e.toNat)
        rw [pow_of_natAbs_le_one hb (by omega)]
        rcases Nat.mod_two_eq_zero_or_one e.toNat with hn | hn
        · rw [hn]
          rcases hbase with rfl | rfl | rfl <;> decide
        · rw [hn]
          rcases hbase with rfl | rfl | rfl <;> decide
  · rintro ⟨⟨-, hfault⟩, hfits⟩
    have hrefused : ¬ o.Admissible := fun h => hfault ⟨h, hfits⟩
    cases o with
    | binary op a b =>
        cases op with
        | rem => exact not_not.mp hrefused
        | _ => exact absurd trivial hrefused
    | neg a => exact absurd trivial hrefused
    | abs a => exact absurd trivial hrefused
    | pow b e =>
        have he : ¬ e ≤ 4294967295 := hrefused
        refine ⟨?_, by omega⟩
        by_contra hb
        exact not_inRange_pow hb (by omega : 64 ≤ e.toNat) hfits

theorem not_inRange_or_refusedInVain {o : IntOperation} (h : o.fault = some .overflow) :
    ¬ Integer.InRange o.result ∨ o.RefusedInVain := by
  by_cases hfits : Integer.InRange o.result
  · exact Or.inr (refusedInVain_iff.mpr ⟨h, hfits⟩)
  · exact Or.inl hfits

/-- An error of operations one after another is that of the first one with a fault. -/
theorem exists_of_attempt_eq_error {os : List IntOperation} {v : Value} {e : CalcError}
    (h : attempt os (.ok v) = .error e) :
    ∃ before o after, os = before ++ o :: after ∧ (∀ b ∈ before, b.fault = none) ∧
      o.fault = some e := by
  unfold attempt at h
  cases hfault : os.findSome? fault with
  | none =>
      rw [hfault] at h
      cases h
  | some e' =>
      rw [hfault] at h
      cases h
      obtain ⟨before, o, after, hos, ho, hbefore⟩ := List.findSome?_eq_some_iff.mp hfault
      exact ⟨before, o, after, hos, hbefore, ho⟩

end IntOperation

open IntOperation

/-! ### Texts -/

/-- Where counting levels does not give up, it comes to the same error as without counting. -/
theorem eval_of_evalWithin_eq_overflow {t : Phrase .expr} {levels : Nat}
    (h : t.evalWithin levels = .error .overflow) : t.eval = .error .overflow := by
  rcases Nat.lt_or_ge levels t.nesting with hdeep | hnest
  · rcases Tree.evalWithin_of_lt_nesting hdeep with hcut | ⟨e, heval, hcut⟩
    · rw [hcut] at h
      cases h
    · rw [hcut] at h
      cases h
      exact heval
  · rwa [Tree.evalWithin_of_nesting_le hnest] at h

namespace Tree

/-- A call that stands alone. -/
def calling (name : Text) (args : Tree .arguments) : Phrase .expr :=
  .operand (.operand (.unsigned (.base (.call name args))))

/-- `a % b`. -/
def remainder (a : Phrase .term) (b : Phrase .unary) : Phrase .expr :=
  .operand (.binary a .rem rfl b)

end Tree

section

variable {text : Text}

/-- Something that does not fit, or one of the two operations, is behind every overflow. -/
theorem exists_cause_of_overflow {t : Phrase .expr} (hspells : Spells text t.tokens)
    (hintegral : t.Integral) (hnonneg : ∀ i, .ok (.int i) ∈ t.exponents → 0 ≤ i)
    (hover : evaluate text = .error .overflow) :
    (∃ i, .number (.int i) ∈ t.tokens ∧ ¬ Integer.InRange i) ∨
      ∃ before o after, t.operations = before ++ o :: after ∧
        (∀ b ∈ before, b.fault = none ∧ Integer.InRange b.result) ∧
        (¬ Integer.InRange o.result ∨ o.RefusedInVain) := by
  by_cases hfits : ∀ token ∈ t.tokens, token.Fits
  · rw [evaluate_eq_evalWithin (tokens_of_spells_of_fits hspells hfits) rfl] at hover
    have heval := eval_of_evalWithin_eq_overflow hover
    rw [(hintegral.agrees hfits hnonneg).eval] at heval
    obtain ⟨before, o, after, hops, hbefore, ho⟩ := exists_of_attempt_eq_error heval
    refine Or.inr ⟨before, o, after, hops, fun b hb => ?_, not_inRange_or_refusedInVain ho⟩
    exact ⟨hbefore b hb, (fault_eq_none_iff.mp (hbefore b hb)).2.2⟩
  · refine Or.inl ?_
    by_contra hnone
    refine hfits (Token.forall_fits_iff.mpr fun i hi => ?_)
    by_contra hbig
    exact hnone ⟨i, hi, hbig⟩

theorem evaluate_pow {name : Text} {a b : Phrase .expr} {i e : Int}
    (hname : Function.ofName? name = some .pow)
    (hlex : tokens text = .ok (calling name (.more a (.last b))).tokens)
    (hnest : (calling name (.more a (.last b))).nesting ≤ 256)
    (ha : a.eval = .ok (.int i)) (hb : b.eval = .ok (.int e)) (he : 0 ≤ e) :
    evaluate text = (IntOperation.pow i e).outcome := by
  rw [evaluate_eq_eval hlex hnest]
  show (Tree.call name (.more a (.last b))).eval = _
  rw [eval_call_more_last, ha, Except.ok_bind, hb, Except.ok_bind, Value.call, hname]
  exact pow_int he

theorem evaluate_remainder {a : Phrase .term} {b : Phrase .unary} {i j : Int}
    (hlex : tokens text = .ok (remainder a b).tokens) (hnest : (remainder a b).nesting ≤ 256)
    (ha : a.eval = .ok (.int i)) (hb : b.eval = .ok (.int j)) (hi : Integer.InRange i)
    (hj : Integer.InRange j) : evaluate text = (IntOperation.binary .rem i j).outcome := by
  rw [evaluate_eq_eval hlex hnest]
  show (a.eval >>= fun v => b.eval >>= fun w => BinOp.rem.apply v w) = _
  rw [ha, Except.ok_bind, hb, Except.ok_bind]
  exact apply_int .rem hi hj

end

/-- **An overflow says that something does not fit, but for two operations.**

Let a text spell an expression of whole numbers, signs, operators, `abs` and `pow` that has no
exponent below zero, and let it overflow.  Then one of its numbers does not fit into 64 bits, or it
comes to an operation, with everything before it computed exactly, whose result does not fit, or
which is refused in vain.

So `pow(a, b)` is the power of the values of `a` and `b` if it fits and the exponent has no more
than 32 bits, and overflows with any greater exponent; and `a % b` is the remainder, unless it is
that of the least integer by -1, which overflows. -/
theorem evaluate_overflow (text : Text) :
    (∀ t : Phrase .expr, Spells text t.tokens → t.Integral →
      (∀ i, .ok (.int i) ∈ t.exponents → 0 ≤ i) → evaluate text = .error .overflow →
        (∃ i, .number (.int i) ∈ t.tokens ∧ ¬ Integer.InRange i) ∨
        ∃ before o after, t.operations = before ++ o :: after ∧
          (∀ b ∈ before, b.fault = none ∧ Integer.InRange b.result) ∧
          (¬ Integer.InRange o.result ∨ o.RefusedInVain)) ∧
    (∀ (name : Text) (a b : Phrase .expr) (i e : Int), Function.ofName? name = some .pow →
      tokens text = .ok (calling name (.more a (.last b))).tokens →
      (calling name (.more a (.last b))).nesting ≤ 256 →
      a.eval = .ok (.int i) → b.eval = .ok (.int e) → 0 ≤ e →
        (e ≤ 4294967295 → Integer.InRange (i ^ e.toNat) →
          evaluate text = .ok (.int (i ^ e.toNat))) ∧
        (4294967295 < e → evaluate text = .error .overflow)) ∧
    ∀ (a : Phrase .term) (b : Phrase .unary) (i j : Int),
      tokens text = .ok (remainder a b).tokens → (remainder a b).nesting ≤ 256 →
      a.eval = .ok (.int i) → b.eval = .ok (.int j) → Integer.InRange i → Integer.InRange j →
      j ≠ 0 →
        evaluate text =
          if i = Integer.least ∧ j = -1 then .error .overflow else .ok (.int (i.tmod j)) := by
  refine ⟨fun t => exists_cause_of_overflow, ?_, ?_⟩
  · intro name a b i e hname hlex hnest ha hb he
    rw [evaluate_pow hname hlex hnest ha hb he]
    refine ⟨fun hle hfits => ?_, fun hlt => ?_⟩
    · rw [outcome_eq_ofInt (o := .pow i e) id hle]
      exact Value.ofInt_eq_ok hfits
    · have hzero : ¬ (IntOperation.pow i e).DividesByZero := id
      have hrefused : ¬ (IntOperation.pow i e).Admissible := Int.not_le.mpr hlt
      rw [outcome_eq, if_neg hzero, if_neg fun h => hrefused h.1]
  · intro a b i j hlex hnest ha hb hi hj hj0
    have hzero : ¬ (IntOperation.binary .rem i j).DividesByZero := fun h => hj0 h.2
    have hfits : Integer.InRange (IntOperation.binary .rem i j).result := inRange_tmod hj hj0
    rw [evaluate_remainder hlex hnest ha hb hi hj, outcome_eq, if_neg hzero]
    by_cases hleast : i = Integer.least ∧ j = -1
    · rw [if_pos hleast, if_neg fun h => h.1 hleast]
    · rw [if_neg hleast, if_pos ⟨hleast, hfits⟩]
      rfl

/-- A power that does not fit, one with the greatest exponent, and a remainder. -/
theorem evaluate_overflow_power :
    (evaluate "2^64" = .error .overflow ∧ ¬ Integer.InRange (IntOperation.pow 2 64).result) ∧
      evaluate "pow(-1,4294967295)" = .ok (.int (-1)) ∧ evaluate "-7%2" = .ok (.int (-1)) := by
  let one (i : Int) : Phrase .unary := .unsigned (.base (.number (.int i)))
  let alone (u : Phrase .unary) : Phrase .expr := .operand (.operand u)
  have hone (i : Int) : (one i).Integral := .unsigned (.base (.number i))
  refine ⟨?_, ?_, ?_⟩
  · let t : Phrase .expr := alone (.unsigned (.raise (.number (.int 2)) (one 64)))
    have hspells : Spells "2^64" t.tokens :=
      .run ['2'] rfl rfl rfl (.symbol rfl (.run ['6', '4'] rfl rfl rfl .nil))
    have hintegral : t.Integral := .operand (.operand (.unsigned (.raise (.number 2) (hone 64))))
    have hfits : ∀ token ∈ t.tokens, token.Fits := by decide
    have hnonneg : ∀ i, .ok (.int i) ∈ t.exponents → 0 ≤ i := by
      intro i hi
      cases List.mem_singleton.mp (show _ ∈ [(one 64).eval] from hi)
      decide
    have hover : evaluate "2^64" = .error .overflow := by
      rw [evaluate_eq_eval (tokens_of_spells_of_fits hspells hfits) (by decide)]
      rfl
    refine ⟨hover, ?_⟩
    rcases (evaluate_overflow "2^64").1 t hspells hintegral hnonneg hover with
      ⟨i, hi, hbig⟩ | ⟨before, o, after, hops, -, hreason⟩
    · exact absurd (Token.forall_fits_iff.mp hfits i hi) hbig
    · have hmem : o ∈ t.operations := by rw [hops]; simp
      obtain rfl : o = .pow 2 64 := List.mem_singleton.mp hmem
      exact hreason.resolve_right (by decide)
  · let args : Tree .arguments :=
      .more (alone (.sign true (one 1))) (.last (alone (one 4294967295)))
    have hspells : Spells "pow(-1,4294967295)" (calling "pow" args).tokens :=
      .name (n := ['o', 'w']) rfl (List.all_eq_true.mp rfl) (by rintro d ⟨⟩; rfl) (.symbol rfl
        (.symbol rfl (.run ['1'] rfl rfl rfl (.symbol rfl
          (.run "4294967295".toList rfl rfl rfl (.symbol rfl .nil))))))
    have hpower : (-1 : Int) ^ (4294967295 : Int).toNat = -1 :=
      pow_of_natAbs_le_one (by decide) (by decide)
    have hvalue := ((evaluate_overflow "pow(-1,4294967295)").2.1 "pow" _ _ (-1) 4294967295 rfl
      (tokens_of_spells_of_fits hspells (by decide)) (by decide) rfl rfl (by decide)).1 (by decide)
    rw [hpower] at hvalue
    exact hvalue (by decide)
  · have hspells : Spells "-7%2" (remainder (.operand (.sign true (one 7))) (one 2)).tokens :=
      .symbol rfl (.run ['7'] rfl rfl rfl (.symbol rfl (.run ['2'] rfl rfl rfl .nil)))
    exact (evaluate_overflow "-7%2").2.2 _ _ (-7) 2
      (tokens_of_spells_of_fits hspells (by decide)) (by decide) rfl rfl (by decide) (by decide)
      (by decide)

/-- Both kinds of operations are refused in vain: every number fits, and every result would. -/
theorem evaluate_overflow_in_vain :
    (∃ t : Phrase .expr, Spells "1 ^ 4294967296" t.tokens ∧ t.Integral ∧
      (∀ i, .ok (.int i) ∈ t.exponents → 0 ≤ i) ∧
      evaluate "1 ^ 4294967296" = .error .overflow ∧
      (∀ i, .number (.int i) ∈ t.tokens → Integer.InRange i) ∧
      ∀ o ∈ t.operations, Integer.InRange o.result) ∧
    ∃ t : Phrase .expr, Spells "(-9223372036854775807 - 1) % -1" t.tokens ∧ t.Integral ∧
      (∀ i, .ok (.int i) ∈ t.exponents → 0 ≤ i) ∧
      evaluate "(-9223372036854775807 - 1) % -1" = .error .overflow ∧
      (∀ i, .number (.int i) ∈ t.tokens → Integer.InRange i) ∧
      ∀ o ∈ t.operations, Integer.InRange o.result := by
  let one (i : Int) : Phrase .unary := .unsigned (.base (.number (.int i)))
  have hone (i : Int) : (one i).Integral := .unsigned (.base (.number i))
  constructor
  · let t : Phrase .expr :=
      .operand (.operand (.unsigned (.raise (.number (.int 1)) (one 4294967296))))
    have hspells : Spells "1 ^ 4294967296" t.tokens :=
      .run ['1'] rfl rfl rfl (.blank rfl (.symbol rfl (.blank rfl
        (.run "4294967296".toList rfl rfl rfl .nil))))
    have hfits : ∀ token ∈ t.tokens, token.Fits := by decide
    have hlex := tokens_of_spells_of_fits hspells hfits
    refine ⟨t, hspells, .operand (.operand (.unsigned (.raise (.number 1) (hone _)))), ?_, ?_,
      Token.forall_fits_iff.mp hfits, ?_⟩
    · intro i hi
      cases List.mem_singleton.mp (show _ ∈ [(one 4294967296).eval] from hi)
      decide
    · rw [evaluate_eq_eval hlex (by decide)]
      rfl
    · intro o ho
      obtain rfl : o = .pow 1 4294967296 := List.mem_singleton.mp ho
      exact (refusedInVain_iff.mp (by decide)).2
  · let least : Phrase .expr :=
      .binary (.operand (.operand (.sign true (one 9223372036854775807)))) .sub rfl
        (.operand (one 1))
    let t : Phrase .expr :=
      remainder (.operand (.unsigned (.base (.group least)))) (.sign true (one 1))
    have hspells : Spells "(-9223372036854775807 - 1) % -1" t.tokens :=
      .symbol rfl (.symbol rfl (.run "9223372036854775807".toList rfl rfl rfl (.blank rfl
        (.symbol rfl (.blank rfl (.run ['1'] rfl rfl rfl (.symbol rfl (.blank rfl (.symbol rfl
          (.blank rfl (.symbol rfl (.run ['1'] rfl rfl rfl .nil))))))))))))
    have hfits : ∀ token ∈ t.tokens, token.Fits := by decide
    have hlex := tokens_of_spells_of_fits hspells hfits
    have hintegral : t.Integral :=
      .operand (.binary (.operand (.unsigned (.base (.group (.binary
        (.operand (.operand (.sign (hone _)))) (.operand (hone 1))))))) (.sign (hone 1)))
    refine ⟨t, hspells, hintegral, ?_, ?_, Token.forall_fits_iff.mp hfits, by decide⟩
    · rintro i ⟨⟩
    · rw [evaluate_eq_eval hlex (by decide)]
      rfl

end AliasShell
