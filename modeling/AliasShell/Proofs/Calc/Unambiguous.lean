/-
The grammar of expressions is not ambiguous.

Two trees with the same tokens are one tree.  To say so below the root, a phrase is read off the
front of tokens that go on behind it, and then it has to be clear where it ends: `Ends c rest` says
that `rest` does not begin with a token that a phrase of the category `c` can go on with.

Phrases that do not chain are told apart by their first token, and their parts end where the next
token says so.  A chain is longer by every operator, so where a chain ends is only clear if the
operators behind it are of another strength.  Its own operators do not end it but they end its
operands, and that is why the induction on a chain compares it with chains of as many operators
first, and those with fewer are found to go on.
-/
import AliasShell.Proofs.Calc.Grammar

namespace AliasShell

/-! ### Where a phrase ends -/

/-- A phrase of this category can go on with this token. -/
def Category.goesOn : Category → Token → Bool
  | _, .openParen => true
  | .primary, _ => false
  | _, .caret => true
  | .chain .sum, .op _ => true
  | .chain .product, .op o => !o.isSum
  | _, _ => false

/-- No phrase of this category goes on into these tokens. -/
def Ends (c : Category) (rest : List Token) : Prop := ∀ t ∈ rest.head?, c.goesOn t = false

namespace Ends

variable {k : Strength} {rest : List Token}

theorem nil (c : Category) : Ends c [] := by
  rintro t ⟨⟩

theorem cons_iff {c : Category} {t : Token} : Ends c (t :: rest) ↔ c.goesOn t = false := by
  simp [Ends]

theorem closeParen (c : Category) (rest : List Token) : Ends c (.closeParen :: rest) := by
  rw [cons_iff]
  rcases c with (_ | _) | _ | _ | _ <;> rfl

theorem comma (c : Category) (rest : List Token) : Ends c (.comma :: rest) := by
  rw [cons_iff]
  rcases c with (_ | _) | _ | _ | _ <;> rfl

/-- An operator of a chain ends its operand. -/
theorem op {o : BinOp} (h : k.picks o = true) (rest : List Token) :
    Ends k.operand (.op o :: rest) := by
  rw [cons_iff]
  cases k with
  | sum => exact Bool.not_eq_false' .. ▸ h
  | product => rfl

/-- It does not end the chain. -/
theorem not_op {o : BinOp} (h : k.picks o = true) : ¬ Ends (.chain k) (.op o :: rest) := by
  rw [cons_iff]
  cases k with
  | sum => exact Bool.noConfusion
  | product =>
      have hgoes : Category.goesOn (.chain .product) (.op o) = true := h
      rw [hgoes]
      exact Bool.noConfusion

theorem caret (rest : List Token) : Ends .primary (.caret :: rest) := cons_iff.mpr rfl

theorem not_caret : ¬ Ends .power (.caret :: rest) := fun h =>
  Bool.noConfusion (cons_iff.mp h)

theorem not_openParen {c : Category} : ¬ Ends c (.openParen :: rest) := fun h =>
  Bool.noConfusion (cons_iff.mp h)

theorem of_chain (h : Ends (.chain k) rest) : Ends k.operand rest := by
  intro t ht
  have hc := h t ht
  cases k with
  | sum => cases t <;> first | rfl | exact Bool.noConfusion hc
  | product => cases t <;> first | rfl | exact Bool.noConfusion hc

theorem unary_iff : Ends .unary rest ↔ Ends .power rest := by
  have hsame : Category.goesOn .unary = Category.goesOn .power := by
    funext t
    cases t <;> rfl
  rw [Ends, Ends, hsame]

theorem of_power (h : Ends .power rest) : Ends .primary rest := by
  intro t ht
  have hc := h t ht
  cases t <;> first | rfl | exact hc

end Ends

namespace Tree

/-! ### Chains -/

/-- The number of operators of a chain. -/
def operators : {r : Rule} → Tree r → Nat
  | _, .binary a _ _ _ => a.operators + 1
  | _, _ => 0

/-- A chain begins with a chain of any smaller number of operators, behind which it goes on. -/
theorem exists_shorter {k : Strength} {m : Nat} :
    (t : Phrase (.chain k)) → m < t.operators →
      ∃ (s : Phrase (.chain k)) (o : BinOp) (rest : List Token), s.operators = m ∧
        k.picks o = true ∧ t.tokens = s.tokens ++ .op o :: rest
  | .operand _, h => absurd h (Nat.not_lt_zero m)
  | .binary a op picked b, h => by
      rcases Nat.lt_or_eq_of_le (Nat.le_of_lt_succ h) with hm | rfl
      · obtain ⟨s, o, rest, hs, ho, ha⟩ := exists_shorter a hm
        exact ⟨s, o, rest ++ .op op :: b.tokens, hs, ho, by
          rw [tokens, ha, List.append_assoc, List.cons_append]⟩
      · exact ⟨a, op, b.tokens, rfl, picked, rfl⟩

/-! ### Unique readability -/

/-- `t` is the only tree of its kind at the front of tokens on which it does not go on. -/
def OnlyOne : {r : Rule} → Tree r → Prop
  | .phrase c, t => ∀ (t' : Phrase c) (rest rest' : List Token),
      t.tokens ++ rest = t'.tokens ++ rest' → Ends c rest → Ends c rest' → t = t' ∧ rest = rest'
  | .arguments, t => ∀ (t' : Tree .arguments) (rest rest' : List Token),
      t.tokens ++ .closeParen :: rest = t'.tokens ++ .closeParen :: rest' → t = t' ∧ rest = rest'

/-- What the induction carries for a chain: only its operands need to end.  Then a chain of as many
operators is the same, and one of fewer goes on. -/
structure Comparable {k : Strength} (t : Phrase (.chain k)) : Prop where
  eq : ∀ (t' : Phrase (.chain k)) (rest rest' : List Token), t'.operators = t.operators →
    t.tokens ++ rest = t'.tokens ++ rest' → Ends k.operand rest → Ends k.operand rest' →
      t = t' ∧ rest = rest'
  goesOn : ∀ (t' : Phrase (.chain k)) (rest rest' : List Token), t'.operators < t.operators →
    t.tokens ++ rest = t'.tokens ++ rest' → Ends k.operand rest → Ends k.operand rest' →
      ¬ Ends (.chain k) rest'

theorem Comparable.onlyOne {k : Strength} {t : Phrase (.chain k)} (h : Comparable t) :
    OnlyOne t := by
  intro t' rest rest' heq hends hends'
  rcases Nat.lt_trichotomy t'.operators t.operators with hlt | hsame | hgt
  · exact absurd hends' (h.goesOn t' rest rest' hlt heq hends.of_chain hends'.of_chain)
  · exact h.eq t' rest rest' hsame heq hends.of_chain hends'.of_chain
  · -- a chain of as many operators as `t` is the front of `t'`, and then it is `t`
    obtain ⟨s, o, more, hs, ho, htokens⟩ := exists_shorter t' hgt
    rw [htokens, List.append_assoc, List.cons_append] at heq
    obtain ⟨-, hrest⟩ := h.eq s rest _ hs heq hends.of_chain (.op ho _)
    rw [hrest] at hends
    exact absurd hends (Ends.not_op ho)

theorem comparable_operand {k : Strength} {t : Phrase k.operand} (h : OnlyOne t) :
    Comparable (k := k) (.operand t) where
  eq t' rest rest' hsame heq hends hends' := by
    cases t' with
    | operand u =>
        obtain ⟨rfl, hrest⟩ := h u rest rest' heq hends hends'
        exact ⟨rfl, hrest⟩
    | binary a op picked b => cases hsame
  goesOn t' rest rest' hlt _ _ _ := absurd hlt (Nat.not_lt_zero _)

theorem comparable_binary {k : Strength} {a : Phrase (.chain k)} {op : BinOp}
    {picked : k.picks op = true} {b : Phrase k.operand} (ha : Comparable a) (hb : OnlyOne b) :
    Comparable (.binary a op picked b) where
  eq t' rest rest' hsame heq hends hends' := by
    cases t' with
    | operand u => cases hsame
    | binary a' op' picked' b' =>
        simp only [tokens, List.append_assoc, List.cons_append] at heq
        obtain ⟨rfl, hcons⟩ := ha.eq a' _ _ (Nat.succ.inj hsame) heq (.op picked _) (.op picked' _)
        obtain ⟨hop, hright⟩ := List.cons.inj hcons
        obtain rfl := Token.op.inj hop
        obtain ⟨rfl, hrest⟩ := hb b' rest rest' hright hends hends'
        exact ⟨rfl, hrest⟩
  goesOn t' rest rest' hlt heq _ hends' := by
    simp only [tokens, List.append_assoc, List.cons_append] at heq
    rcases Nat.lt_or_eq_of_le (Nat.le_of_lt_succ hlt) with hlt | hsame
    · exact ha.goesOn t' _ rest' hlt heq (.op picked _) hends'
    · obtain ⟨-, hrest⟩ := ha.eq t' _ rest' hsame heq (.op picked _) hends'
      rw [← hrest]
      exact Ends.not_op picked

/-! ### Phrases that do not chain -/

theorem primary_ne_op (p : Phrase .primary) (o : BinOp) (rest ts : List Token) :
    p.tokens ++ rest ≠ .op o :: ts := by
  cases p <;> simp [tokens]

theorem power_ne_op (p : Phrase .power) (o : BinOp) (rest ts : List Token) :
    p.tokens ++ rest ≠ .op o :: ts := by
  cases p with
  | base p => exact primary_ne_op p o rest ts
  | raise b e =>
      rw [tokens, List.append_assoc]
      exact primary_ne_op b o _ ts

theorem ne_closeParen {r : Rule} (t : Tree r) (rest ts : List Token) :
    t.tokens ++ rest ≠ .closeParen :: ts := by
  obtain ⟨first, more, h, hopens⟩ := t.exists_tokens_eq
  rw [h, List.cons_append]
  intro hcons
  rw [(List.cons.inj hcons).1] at hopens
  cases hopens

theorem onlyOne_sign {negative : Bool} {u : Phrase .unary} (h : OnlyOne u) :
    OnlyOne (.sign negative u) := by
  intro t' rest rest' heq hends hends'
  cases t' with
  | sign negative' u' =>
      obtain ⟨hop, hright⟩ := List.cons.inj heq
      obtain ⟨rfl, hrest⟩ := h u' rest rest' hright hends hends'
      have hsame : negative = negative' := by
        cases negative <;> cases negative' <;> first | rfl | cases hop
      exact ⟨by rw [hsame], hrest⟩
  | unsigned p => exact absurd heq.symm (power_ne_op p _ _ _)

theorem onlyOne_unsigned {p : Phrase .power} (h : OnlyOne p) : OnlyOne (.unsigned p) := by
  intro t' rest rest' heq hends hends'
  cases t' with
  | sign negative u => exact absurd heq (power_ne_op p _ _ _)
  | unsigned p' =>
      obtain ⟨rfl, hrest⟩ := h p' rest rest' heq (Ends.unary_iff.mp hends)
        (Ends.unary_iff.mp hends')
      exact ⟨rfl, hrest⟩

theorem onlyOne_base {p : Phrase .primary} (h : OnlyOne p) : OnlyOne (.base p) := by
  intro t' rest rest' heq hends hends'
  cases t' with
  | base p' =>
      obtain ⟨rfl, hrest⟩ := h p' rest rest' heq hends.of_power hends'.of_power
      exact ⟨rfl, hrest⟩
  | raise b e =>
      simp only [tokens, List.append_assoc, List.cons_append] at heq
      obtain ⟨-, rfl⟩ := h b rest _ heq hends.of_power (.caret _)
      exact absurd hends Ends.not_caret

theorem onlyOne_raise {b : Phrase .primary} {e : Phrase .unary} (hb : OnlyOne b)
    (he : OnlyOne e) : OnlyOne (.raise b e) := by
  intro t' rest rest' heq hends hends'
  cases t' with
  | base p =>
      simp only [tokens, List.append_assoc, List.cons_append] at heq
      obtain ⟨-, rfl⟩ := hb p _ rest' heq (.caret _) hends'.of_power
      exact absurd hends' Ends.not_caret
  | raise b' e' =>
      simp only [tokens, List.append_assoc, List.cons_append] at heq
      obtain ⟨rfl, hright⟩ := hb b' _ _ heq (.caret _) (.caret _)
      obtain ⟨rfl, hrest⟩ := he e' rest rest' (List.cons.inj hright).2 (Ends.unary_iff.mpr hends)
        (Ends.unary_iff.mpr hends')
      exact ⟨rfl, hrest⟩

theorem onlyOne_number (v : Value) : OnlyOne (.number v) := by
  intro t' rest rest' heq _ _
  cases t' <;> simp_all [tokens]

theorem onlyOne_group {e : Phrase .expr} (h : OnlyOne e) : OnlyOne (.group e) := by
  intro t' rest rest' heq _ _
  cases t' with
  | group e' =>
      simp only [tokens, List.append_assoc, List.cons_append, List.nil_append] at heq
      obtain ⟨rfl, hright⟩ := h e' _ _ (List.cons.inj heq).2 (.closeParen _ _) (.closeParen _ _)
      exact ⟨rfl, (List.cons.inj hright).2⟩
  | _ => simp [tokens] at heq

theorem onlyOne_name (n : Text) : OnlyOne (.name n) := by
  intro t' rest rest' heq hends _
  cases t' with
  | name n' => simpa [tokens] using heq
  | callEmpty n' =>
      obtain ⟨-, rfl⟩ := List.cons.inj heq
      exact absurd hends Ends.not_openParen
  | call n' args =>
      obtain ⟨-, rfl⟩ := List.cons.inj heq
      exact absurd hends Ends.not_openParen
  | _ => simp [tokens] at heq

theorem onlyOne_callEmpty (n : Text) : OnlyOne (.callEmpty n) := by
  intro t' rest rest' heq _ hends'
  cases t' with
  | name n' =>
      obtain ⟨-, rfl⟩ := List.cons.inj heq
      exact absurd hends' Ends.not_openParen
  | callEmpty n' => simpa [tokens] using heq
  | call n' args =>
      simp only [tokens, List.append_assoc, List.cons_append, List.cons.injEq] at heq
      exact absurd heq.2.2.symm (args.ne_closeParen _ _)
  | _ => simp [tokens] at heq

theorem onlyOne_call {n : Text} {args : Tree .arguments} (h : OnlyOne args) :
    OnlyOne (.call n args) := by
  intro t' rest rest' heq _ hends'
  cases t' with
  | name n' =>
      obtain ⟨-, rfl⟩ := List.cons.inj heq
      exact absurd hends' Ends.not_openParen
  | callEmpty n' =>
      simp only [tokens, List.append_assoc, List.cons_append, List.cons.injEq] at heq
      exact absurd heq.2.2 (args.ne_closeParen _ _)
  | call n' args' =>
      simp only [tokens, List.append_assoc, List.cons_append, List.nil_append,
        List.cons.injEq, Token.name.injEq] at heq
      obtain ⟨rfl, -, hargs⟩ := heq
      obtain ⟨rfl, hrest⟩ := h args' rest rest' hargs
      exact ⟨rfl, hrest⟩
  | _ => simp [tokens] at heq

theorem onlyOne_last {e : Phrase .expr} (h : OnlyOne e) : OnlyOne (.last e) := by
  intro t' rest rest' heq
  cases t' with
  | last e' =>
      obtain ⟨rfl, hright⟩ := h e' _ _ heq (.closeParen _ _) (.closeParen _ _)
      exact ⟨rfl, (List.cons.inj hright).2⟩
  | more e' args =>
      simp only [tokens, List.append_assoc, List.cons_append] at heq
      obtain ⟨-, hright⟩ := h e' _ _ heq (.closeParen _ _) (.comma _ _)
      cases hright

theorem onlyOne_more {e : Phrase .expr} {args : Tree .arguments} (h : OnlyOne e)
    (hargs : OnlyOne args) : OnlyOne (.more e args) := by
  intro t' rest rest' heq
  cases t' with
  | last e' =>
      simp only [tokens, List.append_assoc, List.cons_append] at heq
      obtain ⟨-, hright⟩ := h e' _ _ heq (.comma _ _) (.closeParen _ _)
      cases hright
  | more e' args' =>
      simp only [tokens, List.append_assoc, List.cons_append] at heq
      obtain ⟨rfl, hright⟩ := h e' _ _ heq (.comma _ _) (.comma _ _)
      obtain ⟨rfl, hrest⟩ := hargs args' rest rest' (List.cons.inj hright).2
      exact ⟨rfl, hrest⟩

/-! ### All trees -/

/-- The induction hypothesis: a chain is compared with chains, anything else is the only one. -/
def Readable : {r : Rule} → Tree r → Prop
  | .phrase (.chain _), t => Comparable t
  | _, t => OnlyOne t

theorem Readable.onlyOne {r : Rule} {t : Tree r} (h : Readable t) : OnlyOne t := by
  rcases r with ((k | _ | _ | _) | _)
  · exact Comparable.onlyOne h
  all_goals exact h

/-- **The grammar is not ambiguous**: a tree is the only one at the front of its tokens. -/
theorem readable {r : Rule} (t : Tree r) : Readable t := by
  induction t with
  | operand t ih => exact comparable_operand ih.onlyOne
  | binary a op picked b iha ihb => exact comparable_binary iha ihb.onlyOne
  | sign negative u ih => exact onlyOne_sign ih
  | unsigned p ih => exact onlyOne_unsigned ih
  | base p ih => exact onlyOne_base ih
  | raise b e ihb ihe => exact onlyOne_raise ihb ihe
  | number v => exact onlyOne_number v
  | group e ih => exact onlyOne_group ih.onlyOne
  | name n => exact onlyOne_name n
  | callEmpty n => exact onlyOne_callEmpty n
  | call n args ih => exact onlyOne_call ih
  | last e ih => exact onlyOne_last ih.onlyOne
  | more e args ih ihargs => exact onlyOne_more ih.onlyOne ihargs

/-- Expressions with the same tokens are the same tree. -/
theorem eq_of_tokens_eq {c : Category} {t t' : Phrase c} (h : t.tokens = t'.tokens) : t = t' :=
  (t.readable.onlyOne t' [] [] (by rw [h]) (.nil c) (.nil c)).1

end Tree

end AliasShell
