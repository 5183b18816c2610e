/-
The readers read trees.

A reader is given tokens and answers with a value and the tokens it left.  In one direction, what
stands at the front of the tokens is a tree, and the reader answers with the value of that tree, or
with its first error; `reads` is this direction, by induction on the tree.  In the other the reader
has answered with a value, and there is a tree for it; `sound_unary` is that direction, by
induction on the levels and along the readers.

The bounds on chains never show.  A chain of `n` operators has more than `n` tokens, and so has a
list of `n` arguments, and the bound is the number of all tokens.  For a chain the induction hands
the rest of the work over to `chainRest`: after the front of a chain, the reader is where it would
be had it begun with the value of that front.

`evaluate_meaning` puts the two together for a whole text.
-/
import AliasShell.Proofs.Calc.Spelling
import AliasShell.Proofs.Calc.Unambiguous

namespace AliasShell

/-- What reads this category with so many levels left. -/
def Category.reader (bound levels : Nat) : Category → Reader
  | .chain .sum => Reader.expr bound (Reader.unary bound levels)
  | .chain .product => Reader.term bound (Reader.unary bound levels)
  | .unary => Reader.unary bound levels
  | .power => Reader.power bound (Reader.unary bound levels)
  | .primary => Reader.primary bound (Reader.unary bound levels)

theorem Category.reader_chain (bound levels : Nat) (k : Strength) :
    (Category.chain k).reader bound levels =
      Reader.chain bound k.picks (k.operand.reader bound levels) := by
  cases k <;> rfl

namespace Tree

theorem operators_lt_length {r : Rule} (t : Tree r) : t.operators < t.tokens.length := by
  induction t with
  | binary a op _ b ih _ =>
      rw [operators, tokens, List.length_append, List.length_cons]
      omega
  | _ =>
      obtain ⟨first, rest, h, -⟩ := exists_tokens_eq _
      rw [h]
      exact Nat.succ_pos _

/-! ### What a tree derives is read -/

section Reads

variable {bound : Nat}

/-- The reader of its category reads the tree off the front and has its value, or its error. -/
def Reads (bound : Nat) : {r : Rule} → Tree r → Prop
  | .phrase c, t => t.tokens.length ≤ bound → ∀ levels rest, Ends c rest →
      c.reader bound levels (t.tokens ++ rest) = (t.evalWithin levels).map (·, rest)
  | .arguments, t => t.tokens.length ≤ bound → ∀ levels m rest, t.tokens.length ≤ m →
      Reader.arguments (Category.expr.reader bound levels) m (t.tokens ++ .closeParen :: rest) =
        (t.evalWithin levels).map (·, rest)

/-- Behind the front of a chain, the reader goes on from the value of the front. -/
def ReadsOn (bound : Nat) {k : Strength} (t : Phrase (.chain k)) : Prop :=
  t.tokens.length ≤ bound → ∀ levels rest, Ends k.operand rest →
    (Category.chain k).reader bound levels (t.tokens ++ rest) =
      t.evalWithin levels >>= fun v =>
        Reader.chainRest k.picks (k.operand.reader bound levels) (bound - t.operators) v rest

theorem chainRest_of_ends {k : Strength} {rest : List Token} (h : Ends (.chain k) rest)
    (operand : Reader) (n : Nat) (v : Value) :
    Reader.chainRest k.picks operand n v rest = .ok (v, rest) := by
  cases n with
  | zero => rfl
  | succ n =>
      unfold Reader.chainRest
      split
      · next o ts hn =>
          have ho : ¬ k.picks o = true := fun ho => Ends.not_op ho h
          rw [if_neg ho]
      · rfl

theorem ReadsOn.reads {k : Strength} {t : Phrase (.chain k)} (h : ReadsOn bound t) :
    Reads bound t := by
  intro hbound levels rest hends
  rw [h hbound levels rest hends.of_chain]
  cases t.evalWithin levels with
  | ok v => exact chainRest_of_ends hends _ _ v
  | error e => rfl

theorem readsOn_operand {k : Strength} {t : Phrase k.operand} (h : Reads bound t) :
    ReadsOn bound (k := k) (.operand t) := by
  intro hbound levels rest hends
  rw [Category.reader_chain, Reader.chain, tokens, h hbound levels rest hends]
  show _ = t.evalWithin levels >>= _
  cases t.evalWithin levels <;> rfl

theorem readsOn_binary {k : Strength} {a : Phrase (.chain k)} {op : BinOp}
    {picked : k.picks op = true} {b : Phrase k.operand} (ha : ReadsOn bound a)
    (hb : Reads bound b) : ReadsOn bound (.binary a op picked b) := by
  intro hbound levels rest hends
  have hlength : a.tokens.length + b.tokens.length < bound := by
    rw [tokens, List.length_append, List.length_cons] at hbound
    omega
  have hleft : bound - a.operators = bound - (a.operators + 1) + 1 := by
    have := a.operators_lt_length
    omega
  rw [tokens, List.append_assoc, List.cons_append, ha (by omega) levels _ (.op picked _), hleft,
    operators, evalWithin]
  cases a.evalWithin levels with
  | error e => rfl
  | ok v =>
      rw [Except.ok_bind, Except.ok_bind, Reader.chainRest, if_pos picked,
        hb (by omega) levels rest hends]
      cases b.evalWithin levels <;> rfl

theorem reads_sign {negative : Bool} {u : Phrase .unary} (h : Reads bound u) :
    Reads bound (.sign negative u) := by
  intro hbound levels rest hends
  have hu : u.tokens.length ≤ bound := by
    rw [tokens, List.length_cons] at hbound
    omega
  cases levels with
  | zero => rfl
  | succ levels =>
      have hread : Reader.unary bound levels (u.tokens ++ rest) =
          (u.evalWithin levels).map (·, rest) := h hu levels rest hends
      cases negative with
      | true =>
          show (Reader.unary bound levels (u.tokens ++ rest) >>= _) = _
          rw [hread, evalWithin]
          cases u.evalWithin levels with
          | error e => rfl
          | ok v =>
              show (v.neg >>= _) = v.neg.map _
              cases v.neg <;> rfl
      | false =>
          show Reader.unary bound levels (u.tokens ++ rest) = _
          rw [hread, evalWithin]
          cases u.evalWithin levels <;> rfl

theorem reads_unsigned {p : Phrase .power} (h : Reads bound p) : Reads bound (.unsigned p) := by
  intro hbound levels rest hends
  cases levels with
  | zero => rfl
  | succ levels =>
      have hread := h hbound levels rest (Ends.unary_iff.mp hends)
      show Reader.signed bound (Reader.unary bound levels) (p.tokens ++ rest) =
        (p.evalWithin levels).map _
      rw [← hread]
      unfold Reader.signed
      split
      · next ts heq => exact absurd heq (power_ne_op p _ _ _)
      · next ts heq => exact absurd heq (power_ne_op p _ _ _)
      · rfl

theorem reads_base {p : Phrase .primary} (h : Reads bound p) : Reads bound (.base p) := by
  intro hbound levels rest hends
  have hread : Reader.primary bound (Reader.unary bound levels) (p.tokens ++ rest) =
      (p.evalWithin levels).map (·, rest) := h hbound levels rest hends.of_power
  show Reader.power bound (Reader.unary bound levels) (p.tokens ++ rest) = _
  rw [Reader.power, hread, evalWithin]
  cases p.evalWithin levels with
  | error e => rfl
  | ok v =>
      rw [Except.map, Except.ok_bind]
      simp only
      split
      · exact absurd hends Ends.not_caret
      · rfl

theorem reads_raise {b : Phrase .primary} {e : Phrase .unary} (hb : Reads bound b)
    (he : Reads bound e) : Reads bound (.raise b e) := by
  intro hbound levels rest hends
  have hlength : b.tokens.length + e.tokens.length < bound := by
    rw [tokens, List.length_append, List.length_cons] at hbound
    omega
  have hbase : Reader.primary bound (Reader.unary bound levels)
      (b.tokens ++ .caret :: (e.tokens ++ rest)) =
        (b.evalWithin levels).map (·, .caret :: (e.tokens ++ rest)) :=
    hb (by omega) levels _ (.caret _)
  have hexponent : Reader.unary bound levels (e.tokens ++ rest) =
      (e.evalWithin levels).map (·, rest) :=
    he (by omega) levels rest (Ends.unary_iff.mpr hends)
  show Reader.power bound (Reader.unary bound levels) _ = _
  rw [Reader.power, tokens, List.append_assoc, List.cons_append, hbase, evalWithin]
  cases b.evalWithin levels with
  | error e => rfl
  | ok v =>
      show (Reader.unary bound levels (e.tokens ++ rest) >>= _) = _
      rw [hexponent]
      cases e.evalWithin levels with
      | error e => rfl
      | ok w =>
          show (v.pow w >>= _) = (v.pow w).map _
          cases v.pow w <;> rfl

theorem reads_group {e : Phrase .expr} (h : Reads bound e) : Reads bound (.group e) := by
  intro hbound levels rest hends
  have hlength : e.tokens.length ≤ bound := by
    rw [tokens, List.length_cons, List.length_append] at hbound
    omega
  have hread : Reader.expr bound (Reader.unary bound levels)
      (e.tokens ++ .closeParen :: rest) = (e.evalWithin levels).map (·, .closeParen :: rest) :=
    h hlength levels _ (.closeParen _ _)
  rw [tokens, List.cons_append, List.append_assoc, List.singleton_append, evalWithin]
  show Reader.primary bound (Reader.unary bound levels) (.openParen :: (e.tokens ++ _)) = _
  rw [Reader.primary, hread]
  cases e.evalWithin levels <;> rfl

theorem reads_name (n : Text) : Reads bound (.name n) := by
  intro _ levels rest hends
  show Reader.primary bound (Reader.unary bound levels) (.name n :: rest) =
    (Value.constant n).map _
  unfold Reader.primary
  split
  · next heq => cases heq
  · next heq => cases heq
  · next heq =>
      cases heq
      exact absurd hends Ends.not_openParen
  · next heq =>
      cases heq
      exact absurd hends Ends.not_openParen
  · next heq =>
      cases heq
      cases Value.constant n <;> rfl
  · next hname => exact absurd rfl (hname n rest)

theorem reads_callEmpty (n : Text) : Reads bound (.callEmpty n) := by
  intro _ levels rest _
  show Reader.primary bound (Reader.unary bound levels)
    (.name n :: .openParen :: .closeParen :: rest) = (Value.call n []).map _
  rw [Reader.primary]
  cases Value.call n [] <;> rfl

theorem reads_call {n : Text} {args : Tree .arguments} (h : Reads bound args) :
    Reads bound (.call n args) := by
  intro hbound levels rest _
  have hlength : args.tokens.length ≤ bound := by
    simp only [tokens, List.length_cons, List.length_append] at hbound
    omega
  have hread := h hlength levels bound rest hlength
  show Reader.primary bound (Reader.unary bound levels) _ = _
  rw [tokens, List.cons_append, List.cons_append, List.append_assoc, List.singleton_append,
    Reader.primary, evalWithin]
  · show (Reader.arguments (Category.expr.reader bound levels) bound _ >>= _) = _
    rw [hread]
    cases args.evalWithin levels with
    | error e => rfl
    | ok vs =>
        show (Value.call n vs >>= _) = (Value.call n vs).map _
        cases Value.call n vs <;> rfl
  · intro ts heq
    exact absurd heq (args.ne_closeParen _ _)

theorem reads_last {e : Phrase .expr} (h : Reads bound e) : Reads bound (.last e) := by
  intro hbound levels m rest hm
  have hread := h hbound levels (.closeParen :: rest) (.closeParen _ _)
  cases m with
  | zero =>
      have := e.operators_lt_length
      rw [tokens] at hm
      omega
  | succ m =>
      rw [tokens, Reader.arguments, hread, evalWithin]
      cases e.evalWithin levels <;> rfl

theorem reads_more {e : Phrase .expr} {args : Tree .arguments} (h : Reads bound e)
    (hargs : Reads bound args) : Reads bound (.more e args) := by
  intro hbound levels m rest hm
  rw [tokens, List.length_append, List.length_cons] at hbound hm
  have hread := h (by omega) levels (.comma :: (args.tokens ++ .closeParen :: rest)) (.comma _ _)
  cases m with
  | zero => omega
  | succ m =>
      have hrest := hargs (by omega) levels m rest (by omega)
      rw [tokens, List.append_assoc, List.cons_append, Reader.arguments, hread, evalWithin]
      cases e.evalWithin levels with
      | error e => rfl
      | ok v =>
          show (Reader.arguments (Category.expr.reader bound levels) m _ >>= _) = _
          rw [hrest]
          cases args.evalWithin levels <;> rfl

/-- The induction hypothesis: a chain is read on, anything else is read. -/
def Read (bound : Nat) : {r : Rule} → Tree r → Prop
  | .phrase (.chain _), t => ReadsOn bound t
  | _, t => Reads bound t

theorem Read.reads {r : Rule} {t : Tree r} (h : Read bound t) : Reads bound t := by
  rcases r with ((k | _ | _ | _) | _)
  · exact ReadsOn.reads h
  all_goals exact h

/-- **What a tree derives is read as that tree.** -/
theorem reads {r : Rule} (t : Tree r) : Reads bound t := by
  refine Read.reads ?_
  induction t with
  | operand t ih => exact readsOn_operand ih.reads
  | binary a op picked b iha ihb => exact readsOn_binary iha ihb.reads
  | sign negative u ih => exact reads_sign ih
  | unsigned p ih => exact reads_unsigned ih
  | base p ih => exact reads_base ih
  | raise b e ihb ihe => exact reads_raise ihb ihe
  | number v => exact fun _ _ _ _ => rfl
  | group e ih => exact reads_group ih.reads
  | name n => exact reads_name n
  | callEmpty n => exact reads_callEmpty n
  | call n args ih => exact reads_call ih
  | last e ih => exact reads_last ih.reads
  | more e args ih ihargs => exact reads_more ih.reads ihargs

end Reads

end Tree

/-! ### What is read is derived by a tree -/

namespace Reader

/-- Whatever this reads is a tree of the category, within the levels, with the value read. -/
def Sound (c : Category) (levels : Nat) (read : Reader) : Prop :=
  ∀ ts v rest, read ts = .ok (v, rest) →
    ∃ t : Phrase c, t.tokens ++ rest = ts ∧ t.nesting ≤ levels ∧ t.eval = .ok v

section Sound

variable {bound levels : Nat}

theorem sound_chainRest {k : Strength} {operand : Reader} (h : Sound k.operand levels operand) :
    ∀ (n : Nat) (t : Phrase (.chain k)) (v : Value) (ts : List Token) (w : Value)
      (rest : List Token), t.nesting ≤ levels → t.eval = .ok v →
      chainRest k.picks operand n v ts = .ok (w, rest) →
        ∃ t' : Phrase (.chain k), t'.tokens ++ rest = t.tokens ++ ts ∧ t'.nesting ≤ levels ∧
          t'.eval = .ok w := by
  intro n
  induction n with
  | zero =>
      rintro t v ts w rest hnest heval ⟨⟩
      exact ⟨t, rfl, hnest, heval⟩
  | succ n ih =>
      intro t v ts w rest hnest heval hread
      unfold chainRest at hread
      split at hread
      · next o ts' hn =>
          obtain rfl := Nat.succ.inj hn
          split at hread
          · next picked =>
              obtain ⟨⟨b, after⟩, hb, hread⟩ := Except.bind_eq_ok.mp hread
              obtain ⟨u, hu, hread⟩ := Except.bind_eq_ok.mp hread
              obtain ⟨right, htokens, hright, hbeval⟩ := h ts' b after hb
              -- the chain so far, one operand longer
              obtain ⟨t', ht', hnest', heval'⟩ :=
                ih (.binary t o picked right) u after w rest (Nat.max_le.mpr ⟨hnest, hright⟩)
                  (by rw [Tree.eval, heval, Except.ok_bind, hbeval, Except.ok_bind, hu]) hread
              refine ⟨t', ?_, hnest', heval'⟩
              rw [ht', Tree.tokens, List.append_assoc, List.cons_append, htokens]
          · cases hread
            exact ⟨t, rfl, hnest, heval⟩
      · cases hread
        exact ⟨t, rfl, hnest, heval⟩

theorem sound_chain {k : Strength} {operand : Reader} (h : Sound k.operand levels operand) :
    Sound (.chain k) levels (chain bound k.picks operand) := by
  intro ts v rest hread
  obtain ⟨⟨w, after⟩, hw, hread⟩ := Except.bind_eq_ok.mp hread
  obtain ⟨t, htokens, hnest, heval⟩ := h ts w after hw
  obtain ⟨t', ht', hnest', heval'⟩ :=
    sound_chainRest h bound (.operand t) w after v rest hnest heval hread
  exact ⟨t', by rw [ht', Tree.tokens, htokens], hnest', heval'⟩

theorem sound_arguments {item : Reader} (h : Sound .expr levels item) :
    ∀ (n : Nat) (ts : List Token) (vs : List Value) (rest : List Token),
      arguments item n ts = .ok (vs, rest) →
        ∃ args : Tree .arguments, args.tokens ++ .closeParen :: rest = ts ∧
          args.nesting ≤ levels ∧ args.eval = .ok vs := by
  intro n
  induction n with
  | zero => rintro ts vs rest ⟨⟩
  | succ n ih =>
      intro ts vs rest hread
      obtain ⟨⟨v, after⟩, hv, hread⟩ := Except.bind_eq_ok.mp hread
      obtain ⟨e, htokens, hnest, heval⟩ := h ts v after hv
      simp only at hread
      split at hread
      · next after' =>
          obtain ⟨⟨ws, last⟩, hws, hread⟩ := Except.bind_eq_ok.mp hread
          cases hread
          obtain ⟨args, hargs, hnest', heval'⟩ := ih after' ws last hws
          refine ⟨.more e args, ?_, Nat.max_le.mpr ⟨hnest, hnest'⟩, ?_⟩
          · rw [Tree.tokens, List.append_assoc, List.cons_append, hargs, htokens]
          · rw [Tree.eval, heval, Except.ok_bind, heval']
            rfl
      · cases hread
        exact ⟨.last e, htokens, hnest, by rw [Tree.eval, heval]; rfl⟩
      · cases hread

theorem sound_expr {operand : Reader} (h : Sound .unary levels operand) :
    Sound .expr levels (expr bound operand) :=
  sound_chain (k := .sum) (sound_chain (k := .product) h)

theorem sound_primary {operand : Reader} (h : Sound .unary levels operand) :
    Sound .primary levels (primary bound operand) := by
  intro ts v rest hread
  unfold primary at hread
  split at hread
  · cases hread
    exact ⟨.number v, rfl, Nat.zero_le _, rfl⟩
  · next ts =>
      obtain ⟨⟨w, after⟩, hw, hread⟩ := Except.bind_eq_ok.mp hread
      obtain ⟨e, htokens, hnest, heval⟩ := sound_expr h ts w after hw
      simp only at hread
      split at hread
      · cases hread
        refine ⟨.group e, ?_, hnest, heval⟩
        rw [Tree.tokens, List.cons_append, List.append_assoc, List.singleton_append, htokens]
      · cases hread
  · next n ts =>
      obtain ⟨w, hw, hread⟩ := Except.bind_eq_ok.mp hread
      cases hread
      exact ⟨.callEmpty n, rfl, Nat.zero_le _, hw⟩
  · next n ts _ =>
      obtain ⟨⟨vs, after⟩, hvs, hread⟩ := Except.bind_eq_ok.mp hread
      obtain ⟨w, hw, hread⟩ := Except.bind_eq_ok.mp hread
      cases hread
      obtain ⟨args, htokens, hnest, heval⟩ := sound_arguments (sound_expr h) bound ts vs _ hvs
      refine ⟨.call n args, ?_, hnest, ?_⟩
      · rw [Tree.tokens, List.cons_append, List.cons_append, List.append_assoc,
          List.singleton_append, htokens]
      · rw [Tree.eval, heval, Except.ok_bind, hw]
  · next n ts _ _ =>
      obtain ⟨w, hw, hread⟩ := Except.bind_eq_ok.mp hread
      cases hread
      exact ⟨.name n, rfl, Nat.zero_le _, hw⟩
  · cases hread

theorem sound_power {operand : Reader} (h : Sound .unary levels operand) :
    Sound .power levels (power bound operand) := by
  intro ts v rest hread
  obtain ⟨⟨w, after⟩, hw, hread⟩ := Except.bind_eq_ok.mp hread
  obtain ⟨b, htokens, hnest, heval⟩ := sound_primary h ts w after hw
  simp only at hread
  split at hread
  · next after' =>
      obtain ⟨⟨x, last⟩, hx, hread⟩ := Except.bind_eq_ok.mp hread
      obtain ⟨u, hu, hread⟩ := Except.bind_eq_ok.mp hread
      cases hread
      obtain ⟨e, he, hnest', heval'⟩ := h after' x _ hx
      refine ⟨.raise b e, ?_, Nat.max_le.mpr ⟨hnest, hnest'⟩, ?_⟩
      · rw [Tree.tokens, List.append_assoc, List.cons_append, he, htokens]
      · rw [Tree.eval, heval, Except.ok_bind, heval', Except.ok_bind, hu]
  · cases hread
    exact ⟨.base b, htokens, hnest, heval⟩

theorem sound_signed {operand : Reader} (h : Sound .unary levels operand) :
    Sound .unary (levels + 1) (signed bound operand) := by
  intro ts v rest hread
  unfold signed at hread
  split at hread
  · next ts =>
      obtain ⟨⟨w, after⟩, hw, hread⟩ := Except.bind_eq_ok.mp hread
      obtain ⟨x, hx, hread⟩ := Except.bind_eq_ok.mp hread
      cases hread
      obtain ⟨u, htokens, hnest, heval⟩ := h ts w _ hw
      refine ⟨.sign true u, ?_, Nat.succ_le_succ hnest, ?_⟩
      · rw [Tree.tokens, List.cons_append, htokens]
        rfl
      · rw [Tree.eval, heval, Except.ok_bind]
        exact hx
  · next ts =>
      obtain ⟨u, htokens, hnest, heval⟩ := h ts v rest hread
      refine ⟨.sign false u, ?_, Nat.succ_le_succ hnest, ?_⟩
      · rw [Tree.tokens, List.cons_append, htokens]
        rfl
      · rw [Tree.eval, heval]
        rfl
  · obtain ⟨p, htokens, hnest, heval⟩ := sound_power h ts v rest hread
    exact ⟨.unsigned p, htokens, Nat.succ_le_succ hnest, heval⟩

/-- `unary` is sound with any number of levels. -/
theorem sound_unary : ∀ levels, Sound .unary levels (unary bound levels) := by
  intro levels
  induction levels with
  | zero => rintro ts v rest ⟨⟩
  | succ levels ih => exact sound_signed ih

end Sound

end Reader

/-! ### Whole texts -/

section Whole

variable {text : Text} {ts : List Token}

/-- The value of a text is the value of its tree, where `unary` nests as deeply as is allowed. -/
theorem evaluate_eq_evalWithin (hlex : tokens text = .ok ts) {t : Phrase .expr}
    (ht : t.tokens = ts) : evaluate text = t.evalWithin Reader.nestingLimit := by
  have hread : Reader.expr ts.length (Reader.unary ts.length Reader.nestingLimit) ts =
      (t.evalWithin Reader.nestingLimit).map (·, []) := by
    have h := t.reads (Nat.le_of_eq (congrArg List.length ht)) Reader.nestingLimit [] (.nil _)
    rwa [List.append_nil, ht] at h
  obtain ⟨first, rest, hfirst, -⟩ := t.exists_tokens_eq
  have hne : ts.isEmpty = false := by
    rw [← ht, hfirst]
    rfl
  unfold evaluate
  rw [hlex, Except.ok_bind, hne]
  show (Reader.expr _ _ ts >>= _) = _
  rw [hread]
  cases t.evalWithin Reader.nestingLimit <;> rfl

/-- A text that has a value has a tree. -/
theorem exists_tree_of_evaluate (hlex : tokens text = .ok ts) {v : Value}
    (h : evaluate text = .ok v) :
    ∃ t : Phrase .expr, t.tokens = ts ∧ t.nesting ≤ Reader.nestingLimit ∧ t.eval = .ok v := by
  unfold evaluate at h
  rw [hlex, Except.ok_bind] at h
  split at h
  · cases h
  · obtain ⟨⟨w, rest⟩, hread, h⟩ := Except.bind_eq_ok.mp h
    obtain ⟨t, htokens, hnest, heval⟩ :=
      Reader.sound_expr (Reader.sound_unary Reader.nestingLimit) ts w rest hread
    cases rest with
    | nil =>
        cases h
        exact ⟨t, by rw [← htokens, List.append_nil], hnest, heval⟩
    | cons token rest => cases h

/-- A text that has a value has tokens, and a tree derives them. -/
theorem exists_tree_tokens_of_evaluate {v : Value} (h : evaluate text = .ok v) :
    ∃ t : Phrase .expr, tokens text = .ok t.tokens ∧ t.nesting ≤ Reader.nestingLimit ∧
      t.eval = .ok v := by
  obtain ⟨ts, hlex, -⟩ := Except.bind_eq_ok.mp h
  obtain ⟨t, rfl, hnest, heval⟩ := exists_tree_of_evaluate hlex h
  exact ⟨t, hlex, hnest, heval⟩

theorem evaluate_eq_eval {t : Phrase .expr} (hlex : tokens text = .ok t.tokens)
    (hnest : t.nesting ≤ 256) : evaluate text = t.eval := by
  rw [evaluate_eq_evalWithin hlex rfl]
  exact Tree.evalWithin_of_nesting_le hnest

/-- A text has the value that its tree has, unless that nests too deeply. -/
theorem evaluate_of_eval_eq_ok {t : Phrase .expr} (hlex : tokens text = .ok t.tokens) {v : Value}
    (h : t.eval = .ok v) :
    evaluate text =
      if t.nesting ≤ Reader.nestingLimit then .ok v
      else .error (.tooDeep Reader.nestingLimit) := by
  rw [evaluate_eq_evalWithin hlex rfl]
  split
  · next hnest => rw [Tree.evalWithin_of_nesting_le hnest, h]
  · next hnest =>
      rcases Tree.evalWithin_of_lt_nesting (Nat.lt_of_not_le hnest) with hdeep | ⟨e, herror, -⟩
      · exact hdeep
      · rw [h] at herror
        cases herror

/-- **A text has the value of its tree.**  Let `ts` be the tokens of a text.

If a tree derives them that does not nest `unary` more than 256 times, the outcome is that of
evaluating this tree, and if that is an error, it is one of names and numbers.  If the text has a
value, there is one such tree, and no other tree at all.  If a tree nests `unary` more often, the
outcome is that of evaluating it up to the limit: it has no value, and its error is that it is too
deep, or the error it came to before that. -/
theorem evaluate_meaning (hlex : tokens text = .ok ts) :
    (∀ t : Phrase .expr, t.tokens = ts → t.nesting ≤ 256 →
      evaluate text = t.eval ∧ evaluateText text = t.eval.map Value.text ∧
        ∀ e, t.eval = .error e → e.ofValues = true) ∧
    (∀ v, evaluate text = .ok v →
      ∃ t : Phrase .expr, t.tokens = ts ∧ t.nesting ≤ 256 ∧ t.eval = .ok v ∧
        ∀ t' : Phrase .expr, t'.tokens = ts → t' = t) ∧
    (∀ t : Phrase .expr, t.tokens = ts → 256 < t.nesting →
      evaluate text = t.evalWithin 256 ∧
        (evaluate text = .error (.tooDeep 256) ∨
          ∃ e, t.eval = .error e ∧ evaluate text = .error e)) := by
  refine ⟨fun t ht hnest => ?_, fun v hv => ?_, fun t ht hnest => ?_⟩
  · have heval : evaluate text = t.eval := by
      rw [evaluate_eq_evalWithin hlex ht]
      exact Tree.evalWithin_of_nesting_le hnest
    refine ⟨heval, ?_, t.failsByValues⟩
    rw [evaluateText, heval]
    cases t.eval <;> rfl
  · obtain ⟨t, ht, hnest, heval⟩ := exists_tree_of_evaluate hlex hv
    exact ⟨t, ht, hnest, heval, fun t' ht' => Tree.eq_of_tokens_eq (ht'.trans ht.symm)⟩
  · rw [evaluate_eq_evalWithin hlex ht]
    exact ⟨rfl, Tree.evalWithin_of_lt_nesting hnest⟩

end Whole

/-! ### Signs before a number -/

/-- So many minus signs and a 1. -/
def negated : Nat → Phrase .unary
  | 0 => .unsigned (.base (.number (.int 1)))
  | n + 1 => .sign true (negated n)

theorem nesting_negated (n : Nat) : (negated n).nesting = n + 1 := by
  induction n with
  | zero => rfl
  | succ n ih => rw [negated, Tree.nesting, ih]

theorem spells_negated (n : Nat) : Spells (List.replicate n '-' ++ ['1']) (negated n).tokens := by
  induction n with
  | zero => exact .run ['1'] rfl rfl rfl .nil
  | succ n ih => exact .symbol rfl ih

theorem eval_negated (n : Nat) : (negated n).eval = .ok (.int (if n % 2 = 0 then 1 else -1)) := by
  induction n with
  | zero => rfl
  | succ n ih =>
      rw [negated, Tree.eval, ih, Except.ok_bind, if_pos rfl, Value.neg]
      rcases Nat.mod_two_eq_zero_or_one n with h | h
      · rw [if_pos h, if_neg (by omega)]
        rfl
      · rw [if_neg (by omega), if_pos (by omega)]
        rfl

/-- Before a number, 255 minus signs are evaluated, and 256 are too many. -/
theorem evaluate_meaning_signs :
    (evaluate (List.replicate 255 '-' ++ ['1']) = .ok (.int (-1)) ∧
      ∃ t : Phrase .expr, t.nesting = 256 ∧ ∀ t' : Phrase .expr, t'.tokens = t.tokens → t' = t) ∧
    evaluate (List.replicate 256 '-' ++ ['1']) = .error (.tooDeep 256) := by
  have hlex : ∀ n, tokens (List.replicate n '-' ++ ['1']) = .ok (negated n).tokens := by
    intro n
    rw [tokens_of_spells (spells_negated n), fitting, if_pos]
    induction n with
    | zero => exact List.forall_mem_singleton.mpr (show Integer.InRange 1 by decide)
    | succ n ih => exact List.forall_mem_cons.mpr ⟨trivial, ih⟩
  let tree (n : Nat) : Phrase .expr := .operand (.operand (negated n))
  have hvalue : evaluate (List.replicate 255 '-' ++ ['1']) = .ok (.int (-1)) := by
    rw [((evaluate_meaning (hlex 255)).1 (tree 255) rfl
      (Nat.le_of_eq (nesting_negated 255))).1]
    exact eval_negated 255
  refine ⟨⟨hvalue, tree 255, nesting_negated 255, ?_⟩, ?_⟩
  · obtain ⟨t, -, -, -, honly⟩ := (evaluate_meaning (hlex 255)).2.1 _ hvalue
    intro t' ht'
    rw [honly t' ht', honly (tree 255) rfl]
  · have hdeep : 256 < (tree 256).nesting := by
      show 256 < (negated 256).nesting
      rw [nesting_negated]
      decide
    rcases ((evaluate_meaning (hlex 256)).2.2 (tree 256) rfl hdeep).2 with
      h | ⟨e, herror, -⟩
    · exact h
    · rw [show (tree 256).eval = (negated 256).eval from rfl, eval_negated] at herror
      cases herror

end AliasShell
