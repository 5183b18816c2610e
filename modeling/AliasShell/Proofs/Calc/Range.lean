/-
The range of integers, and what is read back of it.

The calculator computes on unbounded integers and asks after every operation whether the result has
a 64-bit form, so there is no value that does not fit: `fits_of_evaluate`.  An operation takes care
of that whatever its operands are, and only the functions that hand an argument on need the
argument to fit; so it is one induction on trees, over the tokens that were read.

An integer is printed as an expression, a number with a sign before it if it is negative.  The
number alone has to fit when that text is read, and it does not for the least integer: the greatest
one is a unit short of it.  `evaluate_text_int` says that this is the only loss.
-/
import AliasShell.Proofs.Calc.Printed
import AliasShell.Proofs.Calc.Reading
import AliasShell.Proofs.Calc.Words

namespace AliasShell

/-- The things as a list, the one of a phrase as a list of one. -/
def Rule.toList {α : Type} : (r : Rule) → r.Of α → List α
  | .phrase _, x => [x]
  | .arguments, xs => xs

/-! ### Operations -/

namespace Value

theorem ofInt_eq_ok_iff {i : Int} {v : Value} :
    ofInt i = .ok v ↔ Integer.InRange i ∧ v = .int i := by
  unfold ofInt
  split
  · next hrange => simp [hrange, eq_comm]
  · next hrange => simp [hrange]

/-- An operation on integers ends in the test whether the result fits. -/
theorem exists_ofInt_of_onInts {op : BinOp} {a b : Int} {v : Value} (h : op.onInts a b = .ok v) :
    ∃ i, ofInt i = .ok v := by
  cases op with
  | rem =>
      obtain ⟨-, -, h⟩ := Except.bind_eq_ok.mp h
      exact ⟨_, h⟩
  | _ => exact ⟨_, h⟩

/-- So does a power. -/
theorem exists_ofInt_of_powInt {b : Int} {e : Nat} {v : Value} (h : powInt b e = .ok v) :
    ∃ i, ofInt i = .ok v := by
  unfold powInt at h
  split at h
  · cases h
  · split at h
    · exact ⟨_, h⟩
    · split at h
      · exact ⟨_, h⟩
      · cases h

/-- An integer that has a 64-bit form, or a binary64 number. -/
def Fits : Value → Prop
  | .int i => Integer.InRange i
  | .float _ => True

namespace Fits

variable {a b v : Value}

theorem of_ofInt {i : Int} (h : ofInt i = .ok v) : v.Fits := by
  obtain ⟨hrange, rfl⟩ := ofInt_eq_ok_iff.mp h
  exact hrange

theorem of_apply {op : BinOp} (h : op.apply a b = .ok v) : v.Fits := by
  unfold BinOp.apply at h
  split at h
  · cases h
  · split at h
    · obtain ⟨i, hi⟩ := exists_ofInt_of_onInts h
      exact of_ofInt hi
    · cases h
      trivial

theorem of_neg (h : a.neg = .ok v) : v.Fits := by
  cases a with
  | int i => exact of_ofInt h
  | float x =>
      cases h
      trivial

theorem of_pow (h : a.pow b = .ok v) : v.Fits := by
  unfold pow at h
  split at h
  · split at h
    · obtain ⟨i, hi⟩ := exists_ofInt_of_powInt h
      exact of_ofInt hi
    · cases h
      trivial
  · cases h
    trivial

theorem of_constant {n : Text} (h : constant n = .ok v) : v.Fits := by
  unfold constant at h
  split at h
  · cases h
    trivial
  · cases h

theorem rounded (h : a.Fits) (f : Float → Float) : (a.rounded f).Fits := by
  cases a with
  | int i => exact h
  | float x => trivial

theorem choose (ha : a.Fits) (hb : b.Fits) (first : Bool) : (Value.choose first a b).Fits := by
  cases a with
  | float x => trivial
  | int i =>
      cases b with
      | float y => trivial
      | int j =>
          cases first
          · exact hb
          · exact ha

/-- `floor`, `ceil`, `round`, `min` and `max` hand an argument on; the other functions do not. -/
theorem of_call {n : Text} {args : List Value} (hargs : ∀ a ∈ args, a.Fits)
    (h : call n args = .ok v) : v.Fits := by
  unfold call at h
  split at h
  · unfold Function.apply at h
    split at h
    · exact of_ofInt h
    · cases h
      trivial
    · cases h
      trivial
    · cases h
      exact (hargs _ (by simp)).rounded _
    · cases h
      exact (hargs _ (by simp)).rounded _
    · cases h
      exact (hargs _ (by simp)).rounded _
    · cases h
      exact (hargs _ (by simp)).choose (hargs _ (by simp)) _
    · cases h
      exact (hargs _ (by simp)).choose (hargs _ (by simp)) _
    · exact of_pow h
    · cases h
  · cases h

end Fits

end Value

/-! ### Tokens -/

/-- What is kept by every token that is read, with the characters that it is read from, holds of a
text and its tokens. -/
theorem tokens_induction {P : Text → List Token → Prop} (nil : P [] [])
    (blank : ∀ {c t ts}, isBlank c = true → P t ts → P (c :: t) ts)
    (number : ∀ {literal t v ts}, Token.readNumber literal = .ok v → P t ts →
      P (literal ++ t) (.number v :: ts))
    (name : ∀ {c run t ts}, Token.startsName c = true → (∀ d ∈ run, Token.continuesName d = true) →
      P t ts → P (c :: run ++ t) (.name (c :: run) :: ts))
    (symbol : ∀ {c t token ts}, Token.ofChar? c = some token → P t ts → P (c :: t) (token :: ts))
    {text : Text} {ts : List Token} (h : tokens text = .ok ts) : P text ts := by
  induction text using tokens.induct generalizing ts with
  | case1 =>
      rw [tokens] at h
      cases h
      exact nil
  | case2 c cs hblank ih =>
      rw [tokens_blank hblank] at h
      exact blank hblank (ih h)
  | case3 c cs hblank hnumber ih =>
      rw [tokens, if_neg hblank, if_pos hnumber] at h
      obtain ⟨v, hv, h⟩ := Except.bind_eq_ok.mp h
      obtain ⟨rest, hrest, h⟩ := Except.bind_eq_ok.mp h
      cases h
      have hp := number hv (ih hrest)
      rwa [List.cons_append, List.takeWhile_append_dropWhile] at hp
  | case4 c cs hblank hnumber hname ih =>
      rw [tokens, if_neg hblank, if_neg hnumber, if_pos hname] at h
      obtain ⟨rest, hrest, h⟩ := Except.bind_eq_ok.mp h
      cases h
      have hrun : ∀ d ∈ cs.takeWhile Token.continuesName, Token.continuesName d = true :=
        List.all_eq_true.mp List.all_takeWhile
      have hp := name hname hrun (ih hrest)
      rwa [List.cons_append, List.takeWhile_append_dropWhile] at hp
  | case5 c cs hblank hnumber hname token htoken ih =>
      rw [tokens_symbol htoken] at h
      obtain ⟨rest, hrest, h⟩ := Except.bind_eq_ok.mp h
      cases h
      exact symbol htoken (ih hrest)
  | case6 c cs hblank hnumber hname htoken =>
      rw [tokens, if_neg hblank, if_neg hnumber, if_neg hname, htoken] at h
      cases h

theorem Token.ne_number_of_ofChar? {c : Char} {token : Token} (h : ofChar? c = some token)
    (v : Value) : token ≠ .number v := by
  rintro rfl
  unfold ofChar? at h
  split at h <;> cases h

theorem Token.fits_number {v : Value} : (Token.number v).Fits ↔ v.Fits := by
  cases v <;> exact Iff.rfl

theorem Token.fits_of_ne_number {token : Token} (h : ∀ v, token ≠ .number v) : token.Fits := by
  cases token with
  | number v => exact absurd rfl (h v)
  | _ => trivial

/-- A number that is read fits. -/
theorem Token.fits_of_readNumber {literal : Text} {v : Value} (h : readNumber literal = .ok v) :
    v.Fits := by
  unfold readNumber at h
  split at h
  · unfold readWhole at h
    simp only at h
    split at h
    · cases h
    · exact .of_ofInt h
  · split at h
    · cases h
    · cases h
      trivial

/-- The tokens of a text fit. -/
theorem fits_of_tokens {text : Text} {ts : List Token} (h : tokens text = .ok ts) :
    ∀ token ∈ ts, token.Fits := by
  refine tokens_induction (P := fun _ ts => ∀ token ∈ ts, token.Fits) (by simp) ?_ ?_ ?_ ?_ h
  · exact fun _ ih => ih
  · intro literal t v ts hv ih
    exact List.forall_mem_cons.mpr ⟨Token.fits_number.mpr (Token.fits_of_readNumber hv), ih⟩
  · intro c run t ts _ _ ih
    exact List.forall_mem_cons.mpr ⟨trivial, ih⟩
  · intro c t token ts htoken ih
    have hfits := Token.fits_of_ne_number (Token.ne_number_of_ofChar? htoken)
    exact List.forall_mem_cons.mpr ⟨hfits, ih⟩

/-! ### Values -/

/-- What a tree of tokens that fit comes to fits. -/
theorem Tree.fits_of_eval {r : Rule} {t : Tree r} (h : ∀ token ∈ t.tokens, token.Fits)
    {x : r.Of Value} (hx : t.eval = .ok x) : ∀ v ∈ r.toList x, v.Fits := by
  induction t with
  | operand t ih => exact ih h hx
  | binary a op _ b _ _ =>
      obtain ⟨v, -, hx⟩ := Except.bind_eq_ok.mp hx
      obtain ⟨w, -, hx⟩ := Except.bind_eq_ok.mp hx
      exact List.forall_mem_singleton.mpr (.of_apply hx)
  | sign negative u ih =>
      obtain ⟨v, hv, hx⟩ := Except.bind_eq_ok.mp hx
      have hu := ih (fun token hm => h token (List.mem_cons_of_mem _ hm)) hv
      cases negative with
      | true => exact List.forall_mem_singleton.mpr (.of_neg hx)
      | false =>
          cases hx
          exact hu
  | unsigned p ih => exact ih h hx
  | base p ih => exact ih h hx
  | raise b e _ _ =>
      obtain ⟨v, -, hx⟩ := Except.bind_eq_ok.mp hx
      obtain ⟨w, -, hx⟩ := Except.bind_eq_ok.mp hx
      exact List.forall_mem_singleton.mpr (.of_pow hx)
  | number v =>
      cases hx
      exact List.forall_mem_singleton.mpr
        (Token.fits_number.mp (h (.number v) (List.mem_singleton_self _)))
  | group e ih => exact ih (fun token hm => h token (by simp [tokens, hm])) hx
  | name n => exact List.forall_mem_singleton.mpr (.of_constant hx)
  | callEmpty n => exact List.forall_mem_singleton.mpr (.of_call (by simp) hx)
  | call n args ih =>
      obtain ⟨vs, hvs, hx⟩ := Except.bind_eq_ok.mp hx
      have hargs := ih (fun token hm => h token (by simp [tokens, hm])) hvs
      exact List.forall_mem_singleton.mpr (.of_call hargs hx)
  | last e ih =>
      obtain ⟨v, hv, hx⟩ := Except.bind_eq_ok.mp hx
      cases hx
      exact ih h hv
  | more e args ih ihargs =>
      obtain ⟨v, hv, hx⟩ := Except.bind_eq_ok.mp hx
      obtain ⟨vs, hvs, hx⟩ := Except.bind_eq_ok.mp hx
      cases hx
      have he := ih (fun token hm => h token (List.mem_append_left _ hm)) hv
      have hargs := ihargs
        (fun token hm => h token (List.mem_append_right _ (List.mem_cons_of_mem _ hm))) hvs
      exact List.forall_mem_cons.mpr ⟨List.forall_mem_singleton.mp he, hargs⟩

/-- A phrase has a value that fits. -/
theorem fits_of_eval_phrase {text : Text} {ts : List Token} (hlex : tokens text = .ok ts)
    {c : Category} {t : Phrase c} (ht : t.tokens ⊆ ts) {v : Value} (hv : t.eval = .ok v) :
    v.Fits :=
  List.forall_mem_singleton.mp
    (Tree.fits_of_eval (fun token hm => fits_of_tokens hlex token (ht hm)) hv)

/-- **Every value fits.** -/
theorem fits_of_evaluate {text : Text} {v : Value} (h : evaluate text = .ok v) : v.Fits := by
  obtain ⟨t, hlex, -, hv⟩ := exists_tree_tokens_of_evaluate h
  exact fits_of_eval_phrase hlex (List.Subset.refl _) hv

/-! ### Reading what was printed -/

namespace Integer

theorem ofDigits_digits (n : Nat) : ofDigits (digits n) = n := Nat.ofDigitChars_ten_toDigits

theorem spells_digits (n : Nat) {t : Text} {ts : List Token}
    (hnext : ∀ d ∈ t.head?, Token.isNumberChar d = false) (h : Spells t ts) :
    Spells (digits n ++ t) (.number (.int n) :: ts) := by
  have hne : digits n ≠ [] := Nat.toDigits_ne_nil
  have hspells := Spells.digits hne (fun d hd => isDigit_of_mem_digits hd) hnext h
  rwa [ofDigits_digits] at hspells

/-- A number that stands alone. -/
def literal (n : Nat) : Phrase .unary := .unsigned (.base (.number (.int n)))

/-- The expression that an integer is printed as. -/
def expression (i : Int) : Phrase .expr :=
  if i < 0 then .operand (.operand (.sign true (literal i.natAbs)))
  else .operand (.operand (literal i.natAbs))

theorem spells_text (i : Int) : Spells (text i) (expression i).tokens := by
  have hdigits : Spells (digits i.natAbs) [.number (.int i.natAbs)] := by
    have h := spells_digits i.natAbs (t := []) (by simp) .nil
    rwa [List.append_nil] at h
  unfold text expression
  by_cases hneg : i < 0
  · rw [if_pos hneg, if_pos hneg]
    exact .symbol rfl hdigits
  · rw [if_neg hneg, if_neg hneg]
    exact hdigits

theorem eval_expression (i : Int) (h : InRange i) : (expression i).eval = .ok (.int i) := by
  unfold expression
  split
  · next hneg =>
      show Value.ofInt (-(i.natAbs : Int)) = _
      rw [show -(i.natAbs : Int) = i by omega, Value.ofInt_eq_ok h]
  · next hnonneg =>
      show Except.ok (Value.int i.natAbs) = _
      rw [show (i.natAbs : Int) = i by omega]

theorem nesting_expression (i : Int) : (expression i).nesting ≤ Reader.nestingLimit := by
  unfold expression
  split
  · exact show 2 ≤ 256 by decide
  · exact show 1 ≤ 256 by decide

theorem fits_expression_iff {i : Int} (h : InRange i) :
    (∀ token ∈ (expression i).tokens, token.Fits) ↔ i ≠ least := by
  have hnumber : InRange i.natAbs ↔ i ≠ least := by
    unfold InRange least greatest at *
    omega
  rw [← hnumber]
  unfold expression
  split
  · exact List.forall_mem_cons.trans ((and_iff_right trivial).trans List.forall_mem_singleton)
  · exact List.forall_mem_singleton

end Integer

/-- **The text of an integer is read as that integer**, unless it is the least one. -/
theorem evaluate_text_int {i : Int} (h : Integer.InRange i) :
    evaluate (Integer.text i) =
      if i = Integer.least then .error .overflow else .ok (.int i) := by
  have hlex := tokens_of_spells (Integer.spells_text i)
  split
  · next hleast =>
      rw [fitting, if_neg fun hfits => (Integer.fits_expression_iff h).mp hfits hleast] at hlex
      rw [evaluate, hlex]
      rfl
  · next hne =>
      rw [fitting, if_pos ((Integer.fits_expression_iff h).mpr hne)] at hlex
      rw [evaluate_of_eval_eq_ok hlex (Integer.eval_expression i h),
        if_pos (Integer.nesting_expression i)]

/-- The least integer is a value. -/
theorem evaluate_least : evaluate "-9223372036854775807 - 1" = .ok (.int Integer.least) := by
  let t : Phrase .expr :=
    .binary (.operand (.operand (.sign true (Integer.literal 9223372036854775807)))) .sub rfl
      (.operand (Integer.literal 1))
  have hspells : Spells "-9223372036854775807 - 1" t.tokens :=
    .symbol rfl (.run "9223372036854775807".toList rfl rfl rfl (.blank rfl
      (.symbol rfl (.blank rfl (.run ['1'] rfl rfl rfl .nil)))))
  exact evaluate_eq_eval (tokens_of_spells_of_fits hspells (by decide)) (by decide)

/-- **What was printed can be read back.**  An expression whose value is an integer prints this
integer, and the text printed is an expression with the same value, which prints the same text
again.  Of the least integer alone the text is none: its digits denote a number that does not fit,
and that is an overflow before the sign is applied. -/
theorem evaluateText_readback {text : Text} {i : Int} (h : evaluate text = .ok (.int i)) :
    evaluateText text = .ok (Integer.text i) ∧
      (i ≠ Integer.least →
        evaluate (Integer.text i) = .ok (.int i) ∧
          evaluateText (Integer.text i) = .ok (Integer.text i)) ∧
      (i = Integer.least → evaluateText (Integer.text i) = .error .overflow) := by
  have hback := evaluate_text_int (fits_of_evaluate h : Integer.InRange i)
  refine ⟨evaluateText_eq_ok.mpr ⟨_, h, rfl⟩, fun hne => ?_, fun hleast => ?_⟩
  · rw [if_neg hne] at hback
    exact ⟨hback, evaluateText_eq_ok.mpr ⟨_, hback, rfl⟩⟩
  · rw [evaluateText, hback, if_pos hleast]
    rfl

/-- A negative value, and the least one. -/
theorem evaluateText_readback_negative :
    (evaluateText "1 - 3" = .ok "-2" ∧ evaluateText "-2" = .ok "-2") ∧
      evaluateText "-9223372036854775808" = .error .overflow := by
  have hvalue : evaluate "1 - 3" = .ok (.int (-2)) := by
    let t : Phrase .expr :=
      .binary (.operand (.operand (Integer.literal 1))) .sub rfl (.operand (Integer.literal 3))
    have hspells : Spells "1 - 3" t.tokens :=
      .run ['1'] rfl rfl rfl (.blank rfl (.symbol rfl (.blank rfl (.run ['3'] rfl rfl rfl .nil))))
    exact evaluate_eq_eval (tokens_of_spells_of_fits hspells (by decide)) (by decide)
  obtain ⟨hprinted, hback, -⟩ := evaluateText_readback hvalue
  exact ⟨⟨hprinted, (hback (by decide)).2⟩, (evaluateText_readback evaluate_least).2.2 rfl⟩

/-- The least integer is printed, and what is printed overflows. -/
theorem evaluateText_least_overflows :
    evaluate "-9223372036854775807 - 1" = .ok (.int Integer.least) ∧
      evaluateText "-9223372036854775807 - 1" = .ok "-9223372036854775808" ∧
      evaluateText "-9223372036854775808" = .error .overflow := by
  refine ⟨evaluate_least, evaluateText_eq_ok.mpr ⟨_, evaluate_least, rfl⟩, ?_⟩
  have hback : evaluate "-9223372036854775808" = .error .overflow :=
    evaluate_text_int (i := Integer.least) (by decide)
  rw [evaluateText, hback]
  rfl

end AliasShell
