/-
Integers and binary64 numbers.

A value is of one of two kinds, and which one can be told without computing it.  What makes a
binary64 number is a literal with a point, one of the constants, `sqrt`, and a power with a negative
exponent; every other operation has an integer for its value exactly if all its operands are
integers.  `Tree.Whole` says that a tree has none of the four, and `isInt_iff_whole` is the
induction: the value is an integer exactly if the tree is whole.

Being whole goes down to every part.  So a binary64 number that occurs anywhere on the way leaves no
integer at the end, `isInt_of_mem_outcomes`.
-/
import AliasShell.Proofs.Calc.Exact
import AliasShell.Proofs.Calc.Range

namespace AliasShell

/-! ### Operations -/

namespace Value

/-- An integer. -/
def IsInt : Value → Prop
  | .int _ => True
  | .float _ => False

/-- Less than zero, of either kind. -/
def IsNegative : Value → Prop
  | .int i => i < 0
  | .float x => x < 0

theorem isInt_iff {v : Value} : v.IsInt ↔ ∃ i, v = .int i := by
  cases v <;> simp [IsInt]

section Operations

variable {a b v : Value}

theorem isInt_of_ofInt {i : Int} (h : ofInt i = .ok v) : v.IsInt := by
  obtain ⟨-, rfl⟩ := ofInt_eq_ok_iff.mp h
  trivial

theorem isInt_neg (h : a.neg = .ok v) : v.IsInt ↔ a.IsInt := by
  cases a with
  | int i => exact iff_of_true (isInt_of_ofInt h) trivial
  | float x =>
      cases h
      exact Iff.rfl

/-- A power of integers is one unless the exponent is negative. -/
theorem isInt_pow (h : a.pow b = .ok v) : v.IsInt ↔ a.IsInt ∧ b.IsInt ∧ ¬ b.IsNegative := by
  cases a with
  | float x =>
      cases h
      exact iff_of_false id fun hint => hint.1
  | int i =>
      cases b with
      | float y =>
          cases h
          exact iff_of_false id fun hint => hint.2.1
      | int e =>
          by_cases he : 0 ≤ e
          · rw [pow, if_pos he] at h
            obtain ⟨k, hk⟩ := exists_ofInt_of_powInt h
            exact iff_of_true (isInt_of_ofInt hk) ⟨trivial, trivial, Int.not_lt.mpr he⟩
          · rw [pow, if_neg he] at h
            cases h
            exact iff_of_false id fun hint => hint.2.2 (Int.not_le.mp he)

theorem isInt_rounded (f : Float → Float) : (a.rounded f).IsInt ↔ a.IsInt := by
  cases a <;> exact Iff.rfl

theorem isInt_choose (first : Bool) : (choose first a b).IsInt ↔ a.IsInt ∧ b.IsInt := by
  cases a <;> cases b <;> simp [choose, IsInt]

end Operations

end Value

open Value

theorem BinOp.isInt_apply {op : BinOp} {a b v : Value} (h : op.apply a b = .ok v) :
    v.IsInt ↔ a.IsInt ∧ b.IsInt := by
  unfold apply at h
  split at h
  · cases h
  · split at h
    · obtain ⟨k, hk⟩ := exists_ofInt_of_onInts h
      exact iff_of_true (isInt_of_ofInt hk) ⟨trivial, trivial⟩
    · next hnot =>
        cases h
        refine iff_of_false id fun ⟨ha, hb⟩ => ?_
        obtain ⟨i, rfl⟩ := isInt_iff.mp ha
        obtain ⟨j, rfl⟩ := isInt_iff.mp hb
        exact hnot i j rfl rfl

/-- A function keeps integers, but `sqrt` does not, nor does `pow` with a negative exponent. -/
theorem Function.isInt_apply {name : Text} {f : Function} {args : List Value} {v : Value}
    (h : f.apply name args = .ok v) :
    v.IsInt ↔ (∀ a ∈ args, a.IsInt) ∧ f ≠ .sqrt ∧
      ∀ e, (f = .pow ∧ ∃ b, args = [b, e]) → ¬ e.IsNegative := by
  unfold apply at h
  split at h
  · exact iff_of_true (isInt_of_ofInt h) (by simp [IsInt])
  · cases h
    simp [IsInt]
  · cases h
    simp [IsInt]
  · cases h
    simp [isInt_rounded]
  · cases h
    simp [isInt_rounded]
  · cases h
    simp [isInt_rounded]
  · cases h
    simp [isInt_choose]
  · cases h
    simp [isInt_choose]
  · rw [isInt_pow h]
    simp [and_assoc]
  · cases h

/-- The names of what is no integer: the constants and `sqrt`. -/
def floatNames : List Text := ["pi", "e", "sqrt"]

theorem mem_floatNames_of_constant {n : Text} {v : Value} (h : Value.constant n = .ok v) :
    n.toLower ∈ floatNames ∧ ¬ v.IsInt := by
  unfold Value.constant at h
  split at h
  · next x hx =>
      cases h
      refine ⟨?_, id⟩
      obtain ⟨before, after, hnames, -⟩ := List.lookup_eq_some_iff.mp hx
      have hmem : (n.toLower, x) ∈ Value.constants := by simp [hnames]
      simp only [Value.constants, List.mem_cons, Prod.mk.injEq, List.not_mem_nil, or_false] at hmem
      rcases hmem with ⟨hn, -⟩ | ⟨hn, -⟩ <;> simp [hn, floatNames]
  · cases h

theorem mem_floatNames_iff {n : Text} {f : Function} (h : Function.ofName? n = some f) :
    n.toLower ∈ floatNames ↔ f = .sqrt := by
  obtain ⟨before, after, hnames, -⟩ := List.lookup_eq_some_iff.mp h
  have hmem : (n.toLower, f) ∈ Function.names := by simp [hnames]
  generalize n.toLower = key at hmem ⊢
  simp only [Function.names, List.mem_cons, Prod.mk.injEq, List.not_mem_nil, or_false] at hmem
  rcases hmem with ⟨rfl, rfl⟩ | ⟨rfl, rfl⟩ | ⟨rfl, rfl⟩ | ⟨rfl, rfl⟩ | ⟨rfl, rfl⟩ | ⟨rfl, rfl⟩ |
    ⟨rfl, rfl⟩ | ⟨rfl, rfl⟩ <;> decide

theorem Value.isInt_call {n : Text} {args : List Value} {v : Value} (h : call n args = .ok v) :
    v.IsInt ↔ (∀ a ∈ args, a.IsInt) ∧ n.toLower ∉ floatNames ∧
      ∀ e, (Function.ofName? n = some .pow ∧ ∃ b, args = [b, e]) → ¬ e.IsNegative := by
  unfold call at h
  split at h
  · next f hf =>
      rw [Function.isInt_apply h, mem_floatNames_iff hf, hf, Option.some.injEq]
  · cases h

theorem call_nil_ne_ok (n : Text) (v : Value) : Value.call n [] ≠ .ok v := by
  intro h
  unfold Value.call at h
  split at h
  · next f _ => cases f <;> cases h
  · cases h

/-! ### Trees -/

/-- The token makes a binary64 number where it stands. -/
def Token.MakesFloat : Token → Prop
  | .number v => ¬ v.IsInt
  | .name n => n.toLower ∈ floatNames
  | .op _ | .caret | .openParen | .closeParen | .comma => False

@[simp] theorem Token.makesFloat_number (v : Value) : (number v).MakesFloat ↔ ¬ v.IsInt := Iff.rfl

@[simp] theorem Token.makesFloat_name (n : Text) :
    (name n).MakesFloat ↔ n.toLower ∈ floatNames := Iff.rfl

@[simp] theorem Token.not_makesFloat_op (o : BinOp) : ¬ (op o).MakesFloat := id

@[simp] theorem Token.not_makesFloat_caret : ¬ caret.MakesFloat := id

@[simp] theorem Token.not_makesFloat_openParen : ¬ openParen.MakesFloat := id

@[simp] theorem Token.not_makesFloat_closeParen : ¬ closeParen.MakesFloat := id

@[simp] theorem Token.not_makesFloat_comma : ¬ comma.MakesFloat := id

namespace Tree

/-- Nothing in the tree makes a binary64 number, neither a token nor an exponent. -/
def Whole {r : Rule} (t : Tree r) : Prop :=
  (∀ token ∈ t.tokens, ¬ token.MakesFloat) ∧ ∀ w, .ok w ∈ t.exponents → ¬ w.IsNegative

section Whole

variable {r r' r'' : Rule}

/-- A tree of two parts and a token between them that makes no binary64 number. -/
theorem whole_of_parts {t : Tree r} {a : Tree r'} {b : Tree r''} {s : Token}
    (hs : ¬ s.MakesFloat) (htokens : t.tokens = a.tokens ++ s :: b.tokens)
    (hexponents : t.exponents = a.exponents ++ b.exponents) : t.Whole ↔ a.Whole ∧ b.Whole := by
  unfold Whole
  rw [htokens, hexponents]
  simp only [List.mem_append, List.mem_cons, or_imp, forall_and, forall_eq]
  tauto

theorem whole_binary {k : Strength} {a : Phrase (.chain k)} {op : BinOp}
    {picked : k.picks op = true} {b : Phrase k.operand} :
    (Tree.binary a op picked b).Whole ↔ a.Whole ∧ b.Whole :=
  whole_of_parts (Token.not_makesFloat_op op) rfl rfl

theorem whole_more {e : Phrase .expr} {args : Tree .arguments} :
    (Tree.more e args).Whole ↔ e.Whole ∧ args.Whole :=
  whole_of_parts Token.not_makesFloat_comma rfl rfl

theorem whole_sign {negative : Bool} {u : Phrase .unary} :
    (Tree.sign negative u).Whole ↔ u.Whole := by
  simp [Whole, tokens, exponents]

theorem whole_group {e : Phrase .expr} : (Tree.group e).Whole ↔ e.Whole := by
  simp [Whole, tokens, exponents, or_imp, forall_and]

theorem whole_raise {b : Phrase .primary} {e : Phrase .unary} :
    (Tree.raise b e).Whole ↔ b.Whole ∧ e.Whole ∧ ∀ w, e.eval = .ok w → ¬ w.IsNegative := by
  simp only [Whole, tokens, exponents, List.mem_append, List.mem_cons, List.not_mem_nil, or_false,
    or_imp, forall_and, forall_eq, Token.not_makesFloat_caret, not_false_eq_true, true_and,
    eq_comm (a := Except.ok _)]
  tauto

theorem mem_exponents_call {n : Text} {args : Tree .arguments} {w : Value} :
    .ok w ∈ (Tree.call n args).exponents ↔
      .ok w ∈ args.exponents ∨ Function.ofName? n = some .pow ∧
        ∃ b e, args = .more b (.last e) ∧ e.eval = .ok w := by
  show _ ∈ args.exponents ++ _ ↔ _
  rw [List.mem_append]
  refine or_congr Iff.rfl ?_
  split
  · next b e hname =>
      rw [List.mem_singleton, eq_comm]
      exact ⟨fun he => ⟨hname, b, e, rfl, he⟩, fun ⟨_, _, _, heq, he⟩ => by cases heq; exact he⟩
  · next hnot =>
      refine iff_of_false List.not_mem_nil ?_
      rintro ⟨hname, b, e, rfl, -⟩
      exact hnot b e hname rfl

theorem whole_call {n : Text} {args : Tree .arguments} :
    (Tree.call n args).Whole ↔ args.Whole ∧ n.toLower ∉ floatNames ∧
      ∀ w, (Function.ofName? n = some .pow ∧
        ∃ b e, args = .more b (.last e) ∧ e.eval = .ok w) → ¬ w.IsNegative := by
  simp only [Whole, mem_exponents_call, tokens, List.mem_append, List.mem_cons, List.not_mem_nil,
    or_false, or_imp, forall_and, forall_eq, Token.makesFloat_name, Token.not_makesFloat_openParen,
    Token.not_makesFloat_closeParen, not_false_eq_true, true_and, and_true]
  tauto

end Whole

theorem eval_arguments_ne_nil {args : Tree .arguments} {vs : List Value} (h : args.eval = .ok vs) :
    vs ≠ [] := by
  cases args with
  | last e =>
      obtain ⟨v, -, h⟩ := Except.bind_eq_ok.mp h
      cases h
      exact List.cons_ne_nil _ _
  | more e args =>
      obtain ⟨v, -, h⟩ := Except.bind_eq_ok.mp h
      obtain ⟨ws, -, h⟩ := Except.bind_eq_ok.mp h
      cases h
      exact List.cons_ne_nil _ _

/-- Two values are those of two arguments. -/
theorem eval_arguments_two {args : Tree .arguments} {vs : List Value} (h : args.eval = .ok vs)
    (w : Value) :
    (∃ v, vs = [v, w]) ↔ ∃ b e, args = .more b (.last e) ∧ e.eval = .ok w := by
  cases args with
  | last e =>
      obtain ⟨v, -, h⟩ := Except.bind_eq_ok.mp h
      cases h
      simp
  | more b args =>
      obtain ⟨v, -, h⟩ := Except.bind_eq_ok.mp h
      obtain ⟨ws, hws, h⟩ := Except.bind_eq_ok.mp h
      cases h
      cases args with
      | last e =>
          obtain ⟨w', he, hws⟩ := Except.bind_eq_ok.mp hws
          cases hws
          simp [he]
      | more e args =>
          obtain ⟨w', -, hws⟩ := Except.bind_eq_ok.mp hws
          obtain ⟨us, hus, hws⟩ := Except.bind_eq_ok.mp hws
          cases hws
          have hne := eval_arguments_ne_nil hus
          simp [hne]

/-- **What a tree comes to is an integer exactly if the tree is whole**; what arguments come to are
all integers then. -/
theorem isInt_iff_whole {r : Rule} {t : Tree r} {x : r.Of Value} (hx : t.eval = .ok x) :
    (∀ v ∈ r.toList x, v.IsInt) ↔ t.Whole := by
  induction t with
  | operand t ih => exact ih hx
  | binary a op _ b iha ihb =>
      obtain ⟨v, hv, hx⟩ := Except.bind_eq_ok.mp hx
      obtain ⟨w, hw, hx⟩ := Except.bind_eq_ok.mp hx
      have ha := List.forall_mem_singleton.symm.trans (iha hv)
      have hb := List.forall_mem_singleton.symm.trans (ihb hw)
      rw [whole_binary, ← ha, ← hb]
      exact List.forall_mem_singleton.trans (BinOp.isInt_apply hx)
  | sign negative u ih =>
      obtain ⟨v, hv, hx⟩ := Except.bind_eq_ok.mp hx
      have hu := List.forall_mem_singleton.symm.trans (ih hv)
      rw [whole_sign, ← hu]
      refine List.forall_mem_singleton.trans ?_
      cases negative with
      | true => exact isInt_neg hx
      | false =>
          cases hx
          exact Iff.rfl
  | unsigned p ih => exact ih hx
  | base p ih => exact ih hx
  | raise b e ihb ihe =>
      obtain ⟨v, hv, hx⟩ := Except.bind_eq_ok.mp hx
      obtain ⟨w, hw, hx⟩ := Except.bind_eq_ok.mp hx
      have hb := List.forall_mem_singleton.symm.trans (ihb hv)
      have he := List.forall_mem_singleton.symm.trans (ihe hw)
      rw [whole_raise, ← hb, ← he, hw]
      refine List.forall_mem_singleton.trans ((isInt_pow hx).trans ?_)
      simp
  | number v =>
      cases hx
      refine List.forall_mem_singleton.trans ?_
      simp [Whole, tokens, exponents]
  | group e ih => exact (ih hx).trans whole_group.symm
  | name n =>
      obtain ⟨hname, hfloat⟩ := mem_floatNames_of_constant hx
      refine iff_of_false (fun hint => hfloat (List.forall_mem_singleton.mp hint)) fun hwhole => ?_
      exact hwhole.1 (.name n) (List.mem_singleton_self _) hname
  | callEmpty n => exact absurd hx (call_nil_ne_ok n x)
  | call n args ih =>
      obtain ⟨vs, hvs, hx⟩ := Except.bind_eq_ok.mp hx
      have hargs : (∀ v ∈ vs, v.IsInt) ↔ args.Whole := ih hvs
      rw [whole_call, ← hargs]
      simp only [← eval_arguments_two hvs]
      exact List.forall_mem_singleton.trans (isInt_call hx)
  | last e ih =>
      obtain ⟨v, hv, hx⟩ := Except.bind_eq_ok.mp hx
      cases hx
      exact ih hv
  | more e args ih ihargs =>
      obtain ⟨v, hv, hx⟩ := Except.bind_eq_ok.mp hx
      obtain ⟨vs, hvs, hx⟩ := Except.bind_eq_ok.mp hx
      cases hx
      have he := List.forall_mem_singleton.symm.trans (ih hv)
      have hargs : (∀ v ∈ vs, v.IsInt) ↔ args.Whole := ihargs hvs
      rw [whole_more, ← he, ← hargs]
      exact List.forall_mem_cons

/-! ### Parts -/

/-- What every phrase of a tree comes to, the tree itself included. -/
def outcomes : {r : Rule} → Tree r → List (Except CalcError Value)
  | _, .operand t => t.eval :: t.outcomes
  | _, .binary a op picked b => (Tree.binary a op picked b).eval :: (a.outcomes ++ b.outcomes)
  | _, .sign negative u => (Tree.sign negative u).eval :: u.outcomes
  | _, .unsigned p => p.eval :: p.outcomes
  | _, .base p => p.eval :: p.outcomes
  | _, .raise b e => (Tree.raise b e).eval :: (b.outcomes ++ e.outcomes)
  | _, .number v => [.ok v]
  | _, .group e => e.eval :: e.outcomes
  | _, .name n => [Value.constant n]
  | _, .callEmpty n => [Value.call n []]
  | _, .call n args => (Tree.call n args).eval :: args.outcomes
  | _, .last e => e.outcomes
  | _, .more e args => e.outcomes ++ args.outcomes

theorem Whole.isInt {c : Category} {t : Phrase c} (h : t.Whole) {v : Value}
    (hv : t.eval = .ok v) : v.IsInt :=
  List.forall_mem_singleton.mp ((isInt_iff_whole hv).mpr h)

theorem Whole.isInt_of_mem_cons {c : Category} {t : Phrase c} (h : t.Whole)
    {parts : List (Except CalcError Value)} (hparts : ∀ w, .ok w ∈ parts → w.IsInt) :
    ∀ w, .ok w ∈ t.eval :: parts → w.IsInt := by
  intro w hw
  rcases List.mem_cons.mp hw with heq | hw
  · exact h.isInt heq.symm
  · exact hparts w hw

/-- A whole tree is one of integers only. -/
theorem Whole.isInt_of_mem_outcomes {r : Rule} {t : Tree r} (h : t.Whole) :
    ∀ w, .ok w ∈ t.outcomes → w.IsInt := by
  induction t with
  | operand t ih => exact isInt_of_mem_cons (t := t) h (ih h)
  | binary a op _ b iha ihb =>
      obtain ⟨ha, hb⟩ := whole_binary.mp h
      exact h.isInt_of_mem_cons fun w hw => (List.mem_append.mp hw).elim (iha ha w) (ihb hb w)
  | sign negative u ih => exact h.isInt_of_mem_cons (ih (whole_sign.mp h))
  | unsigned p ih => exact isInt_of_mem_cons (t := p) h (ih h)
  | base p ih => exact isInt_of_mem_cons (t := p) h (ih h)
  | raise b e ihb ihe =>
      obtain ⟨hb, he, -⟩ := whole_raise.mp h
      exact h.isInt_of_mem_cons fun w hw => (List.mem_append.mp hw).elim (ihb hb w) (ihe he w)
  | number v => exact h.isInt_of_mem_cons (by simp)
  | group e ih => exact (whole_group.mp h).isInt_of_mem_cons (ih (whole_group.mp h))
  | name n => exact h.isInt_of_mem_cons (by simp)
  | callEmpty n => exact h.isInt_of_mem_cons (by simp)
  | call n args ih => exact h.isInt_of_mem_cons (ih (whole_call.mp h).1)
  | last e ih => exact ih h
  | more e args ih ihargs =>
      intro w hw
      obtain ⟨he, hargs⟩ := whole_more.mp h
      exact (List.mem_append.mp hw).elim (ih he w) (ihargs hargs w)

end Tree

/-! ### Points -/

open Token

theorem Token.point_mem_iff {literal : Text} {v : Value} (h : readNumber literal = .ok v) :
    '.' ∈ literal ↔ ¬ v.IsInt := by
  unfold readNumber at h
  split at h
  · next hnone =>
      refine iff_of_false (Text.cutFirst_eq_none_iff.mp hnone) (not_not_intro ?_)
      unfold readWhole at h
      simp only at h
      split at h
      · cases h
      · exact isInt_of_ofInt h
  · next whole places hsome =>
      split at h
      · cases h
      · cases h
        refine iff_of_true ?_ id
        by_contra hnot
        rw [Text.cutFirst_eq_none_iff.mpr hnot] at hsome
        cases hsome

/-- A point stands in a number that is no integer, and nowhere else. -/
theorem point_mem_iff_of_tokens {text : Text} {ts : List Token} (h : tokens text = .ok ts) :
    '.' ∈ text ↔ ∃ v, .number v ∈ ts ∧ ¬ v.IsInt := by
  refine tokens_induction (P := fun text ts => '.' ∈ text ↔ ∃ v, .number v ∈ ts ∧ ¬ v.IsInt)
    (by simp) ?_ ?_ ?_ ?_ h
  · intro c t ts hblank ih
    have hc : '.' ≠ c := by
      rintro rfl
      cases hblank
    rw [List.mem_cons, or_iff_right hc, ih]
  · intro literal t v ts hv ih
    rw [List.mem_append, point_mem_iff hv, ih]
    simp [or_and_right, exists_or]
  · intro c run t ts hstart hrun ih
    have hname : startsName '.' = false ∧ continuesName '.' = false := by decide +kernel
    have hc : '.' ≠ c := by
      rintro rfl
      rw [hname.1] at hstart
      cases hstart
    have hnot : '.' ∉ run := by
      intro hmem
      rw [hrun _ hmem] at hname
      cases hname.2
    rw [List.mem_append, ih]
    simp [hc, hnot]
  · intro c t token ts htoken ih
    have hc : '.' ≠ c := by
      rintro rfl
      cases htoken
    have hnone : ∀ v, Token.number v ≠ token := fun v => (ne_number_of_ofChar? htoken v).symm
    rw [List.mem_cons, or_iff_right hc, ih]
    simp [hnone]

/-- Being whole is a matter of the text and of the exponents. -/
theorem whole_iff {text : Text} {t : Phrase .expr} (hlex : tokens text = .ok t.tokens) :
    t.Whole ↔ '.' ∉ text ∧ (∀ n, .name n ∈ t.tokens → n.toLower ∉ floatNames) ∧
      ∀ w, .ok w ∈ t.exponents → ¬ w.IsNegative := by
  have htokens : (∀ token ∈ t.tokens, ¬ token.MakesFloat) ↔
      '.' ∉ text ∧ ∀ n, .name n ∈ t.tokens → n.toLower ∉ floatNames := by
    rw [point_mem_iff_of_tokens hlex]
    constructor
    · exact fun h => ⟨fun ⟨v, hv, hfloat⟩ => h _ hv hfloat, fun n hn => h _ hn⟩
    · rintro ⟨hpoint, hnames⟩ token hmem
      cases token with
      | number v => exact fun hfloat => hpoint ⟨v, hmem, hfloat⟩
      | name n => exact hnames n hmem
      | _ => exact id
  rw [Tree.Whole, htokens, and_assoc]

/-- **Integers stay integers.**  The value of an expression is an integer exactly if there is no
point in the expression, none of the names of the constants and of `sqrt`, and no exponent, of `^`
or of `pow`, that comes to a negative number.  And it is one exactly if whatever part of the
expression has a value has an integer for it. -/
theorem evaluate_kind {text : Text} {t : Phrase .expr} {v : Value}
    (hlex : tokens text = .ok t.tokens) (hv : evaluate text = .ok v) :
    (v.IsInt ↔ '.' ∉ text ∧ (∀ n, .name n ∈ t.tokens → n.toLower ∉ floatNames) ∧
      ∀ w, .ok w ∈ t.exponents → ¬ w.IsNegative) ∧
    (v.IsInt ↔ ∀ w, .ok w ∈ t.outcomes → w.IsInt) := by
  obtain ⟨t', ht', -, heval⟩ := exists_tree_of_evaluate hlex hv
  rw [Tree.eq_of_tokens_eq ht'] at heval
  have hwhole : v.IsInt ↔ t.Whole :=
    List.forall_mem_singleton.symm.trans (Tree.isInt_iff_whole heval)
  refine ⟨hwhole.trans (whole_iff hlex), fun hint => (hwhole.mp hint).isInt_of_mem_outcomes, ?_⟩
  intro hall
  refine hall v ?_
  rw [← heval]
  cases t <;> exact List.mem_cons_self

/-- A quotient of integers is one, and a power is none whose exponent is a negative quotient. -/
theorem evaluate_kind_quotients :
    (∃ v, evaluate "-7/2" = .ok v ∧ v.IsInt) ∧ ∃ v, evaluate "2^(-7/2)" = .ok v ∧ ¬ v.IsInt := by
  let quotient : Phrase .expr :=
    .operand (.binary (.operand (.sign true (Integer.literal 7))) .div rfl (Integer.literal 2))
  have hquotient : Spells "-7/2" quotient.tokens :=
    .symbol rfl (.run ['7'] rfl rfl rfl (.symbol rfl (.run ['2'] rfl rfl rfl .nil)))
  let power : Phrase .expr :=
    .operand (.operand (.unsigned (.raise (.number (.int 2))
      (.unsigned (.base (.group quotient))))))
  have hpower : Spells "2^(-7/2)" power.tokens :=
    .run ['2'] rfl rfl rfl (.symbol rfl (.symbol rfl (.symbol rfl (.run ['7'] rfl rfl rfl
      (.symbol rfl (.run ['2'] rfl rfl rfl (.symbol rfl .nil)))))))
  constructor
  · have hlex := tokens_of_spells_of_fits hquotient (by decide)
    have hvalue : evaluate "-7/2" = .ok (.int (-3)) := evaluate_eq_eval hlex (by decide)
    refine ⟨_, hvalue, (evaluate_kind hlex hvalue).1.mpr ⟨by decide, ?_, ?_⟩⟩
    · intro n hn
      simp [quotient, Tree.tokens, Integer.literal] at hn
    · intro w hw
      cases hw
  · have hlex := tokens_of_spells_of_fits hpower (by decide)
    have hvalue : evaluate "2^(-7/2)" =
        .ok (.float (Float.pow (Float.ofInt 2) (Float.ofInt (-3)))) :=
      evaluate_eq_eval hlex (by decide)
    refine ⟨_, hvalue, fun hint => ?_⟩
    have hnonneg := ((evaluate_kind hlex hvalue).1.mp hint).2.2
    exact hnonneg (.int (-3)) (List.mem_singleton_self _) (show (-3 : Int) < 0 by decide)

end AliasShell
