/-
The grammar of expressions, and what its trees mean.

    expr    := term (('+' | '-') term)*
    term    := unary (('*' | '/' | '%') unary)*
    unary   := ('+' | '-') unary | power
    power   := primary ('^' unary)?
    primary := number | '(' expr ')' | name | name '(' [expr (',' expr)*] ')'

The readers of `Calc.Reader` go through tokens and have a value at the end, and never a tree.  Here
the tree is the thing: a `Tree` is a derivation of the grammar, so none can be built that the
grammar does not have, and `tokens`, `nesting` and `eval` are recursions on it.  A chain of
operators is one category for each of the two strengths, and its trees lean to the left; those of
`^` lean to the right, because the exponent is a `unary`.

`eval` knows nothing of the number of levels.  `evalWithin` does: it gives up where `unary` would be
entered once too often.  `evalWithin_of_nesting_le` and `evalWithin_of_lt_nesting` say when that
shows.
-/
import AliasShell.Calc.Reader

namespace AliasShell

/-! ### Categories -/

/-- How strongly an operator binds that chains to the left. -/
inductive Strength where
  | sum
  | product
  deriving Repr, DecidableEq

/-- The operators of this strength. -/
def Strength.picks : Strength → BinOp → Bool
  | .sum => BinOp.isSum
  | .product => fun o => !o.isSum

/-- What the grammar calls `expr`, `term`, `unary`, `power` and `primary`; the first two are chains
of operators. -/
inductive Category where
  | chain (k : Strength)
  | unary
  | power
  | primary
  deriving Repr, DecidableEq

namespace Category

/-- `expr`. -/
abbrev expr : Category := .chain .sum

/-- `term`. -/
abbrev term : Category := .chain .product

end Category

/-- What stands between the operators of a chain. -/
def Strength.operand : Strength → Category
  | .sum => .term
  | .product => .unary

/-- What a tree is the tree of: one phrase, or the arguments of a call. -/
inductive Rule where
  | phrase (c : Category)
  | arguments
  deriving Repr, DecidableEq

/-- One thing for a phrase, a list of them for arguments. -/
abbrev Rule.Of (α : Type) : Rule → Type
  | .phrase _ => α
  | .arguments => List α

/-! ### Trees -/

/-- A derivation. -/
inductive Tree : Rule → Type where
  /-- a chain of one operand -/
  | operand {k : Strength} (t : Tree (.phrase k.operand)) : Tree (.phrase (.chain k))
  /-- a chain, one more operator, and its right operand -/
  | binary {k : Strength} (a : Tree (.phrase (.chain k))) (op : BinOp) (picked : k.picks op = true)
      (b : Tree (.phrase k.operand)) : Tree (.phrase (.chain k))
  | sign (negative : Bool) (u : Tree (.phrase .unary)) : Tree (.phrase .unary)
  | unsigned (p : Tree (.phrase .power)) : Tree (.phrase .unary)
  | base (p : Tree (.phrase .primary)) : Tree (.phrase .power)
  | raise (b : Tree (.phrase .primary)) (e : Tree (.phrase .unary)) : Tree (.phrase .power)
  | number (v : Value) : Tree (.phrase .primary)
  | group (e : Tree (.phrase .expr)) : Tree (.phrase .primary)
  | name (n : Text) : Tree (.phrase .primary)
  | callEmpty (n : Text) : Tree (.phrase .primary)
  | call (n : Text) (args : Tree .arguments) : Tree (.phrase .primary)
  | last (e : Tree (.phrase .expr)) : Tree .arguments
  | more (e : Tree (.phrase .expr)) (args : Tree .arguments) : Tree .arguments

/-- A derivation of one phrase. -/
abbrev Phrase (c : Category) : Type := Tree (.phrase c)

namespace Tree

/-- The tokens that a tree derives.  Those of arguments do not include the parentheses. -/
def tokens : {r : Rule} → Tree r → List Token
  | _, .operand t => t.tokens
  | _, .binary a op _ b => a.tokens ++ .op op :: b.tokens
  | _, .sign negative u => .op (if negative then .sub else .add) :: u.tokens
  | _, .unsigned p => p.tokens
  | _, .base p => p.tokens
  | _, .raise b e => b.tokens ++ .caret :: e.tokens
  | _, .number v => [.number v]
  | _, .group e => .openParen :: (e.tokens ++ [.closeParen])
  | _, .name n => [.name n]
  | _, .callEmpty n => [.name n, .openParen, .closeParen]
  | _, .call n args => .name n :: .openParen :: (args.tokens ++ [.closeParen])
  | _, .last e => e.tokens
  | _, .more e args => e.tokens ++ .comma :: args.tokens

/-- The greatest number of `unary` on a path from the root. -/
def nesting : {r : Rule} → Tree r → Nat
  | _, .operand t => t.nesting
  | _, .binary a _ _ b => max a.nesting b.nesting
  | _, .sign _ u => u.nesting + 1
  | _, .unsigned p => p.nesting + 1
  | _, .base p => p.nesting
  | _, .raise b e => max b.nesting e.nesting
  | _, .number _ => 0
  | _, .group e => e.nesting
  | _, .name _ => 0
  | _, .callEmpty _ => 0
  | _, .call _ args => args.nesting
  | _, .last e => e.nesting
  | _, .more e args => max e.nesting args.nesting

/-- The value of a tree: operands from left to right, then the operation; arguments from left to
right, then the function. -/
def eval : {r : Rule} → Tree r → Except CalcError (r.Of Value)
  | _, .operand t => t.eval
  | _, .binary a op _ b => do
    let v ← a.eval
    let w ← b.eval
    op.apply v w
  | _, .sign negative u => do
    let v ← u.eval
    if negative then v.neg else return v
  | _, .unsigned p => p.eval
  | _, .base p => p.eval
  | _, .raise b e => do
    let v ← b.eval
    let w ← e.eval
    v.pow w
  | _, .number v => .ok v
  | _, .group e => e.eval
  | _, .name n => Value.constant n
  | _, .callEmpty n => Value.call n []
  | _, .call n args => do
    let vs ← args.eval
    Value.call n vs
  | _, .last e => do
    let v ← e.eval
    return [v]
  | _, .more e args => do
    let v ← e.eval
    let vs ← args.eval
    return v :: vs

/-- The value of a tree where `unary` may be entered this many times on a path.  Entering it once
more is an error, before anything below is looked at. -/
def evalWithin : Nat → {r : Rule} → Tree r → Except CalcError (r.Of Value)
  | levels, _, .operand t => t.evalWithin levels
  | levels, _, .binary a op _ b => do
    let v ← a.evalWithin levels
    let w ← b.evalWithin levels
    op.apply v w
  | 0, _, .sign _ _ => .error (.tooDeep Reader.nestingLimit)
  | levels + 1, _, .sign negative u => do
    let v ← u.evalWithin levels
    if negative then v.neg else return v
  | 0, _, .unsigned _ => .error (.tooDeep Reader.nestingLimit)
  | levels + 1, _, .unsigned p => p.evalWithin levels
  | levels, _, .base p => p.evalWithin levels
  | levels, _, .raise b e => do
    let v ← b.evalWithin levels
    let w ← e.evalWithin levels
    v.pow w
  | _, _, .number v => .ok v
  | levels, _, .group e => e.evalWithin levels
  | _, _, .name n => Value.constant n
  | _, _, .callEmpty n => Value.call n []
  | levels, _, .call n args => do
    let vs ← args.evalWithin levels
    Value.call n vs
  | levels, _, .last e => do
    let v ← e.evalWithin levels
    return [v]
  | levels, _, .more e args => do
    let v ← e.evalWithin levels
    let vs ← args.evalWithin levels
    return v :: vs

/-! ### How a tree begins -/

end Tree

/-- An expression can begin with this token. -/
def Token.opens : Token → Bool
  | .number _ | .name _ | .op _ | .openParen => true
  | .caret | .closeParen | .comma => false

namespace Tree

/-- Whatever a tree derives begins with a token that an expression can begin with. -/
theorem exists_tokens_eq {r : Rule} (t : Tree r) :
    ∃ first rest, t.tokens = first :: rest ∧ first.opens = true := by
  induction t with
  | operand t ih => exact ih
  | binary a op _ b iha _ =>
      obtain ⟨first, rest, h, hopens⟩ := iha
      exact ⟨first, rest ++ .op op :: b.tokens, by rw [tokens, h, List.cons_append], hopens⟩
  | sign negative u _ => exact ⟨_, _, rfl, rfl⟩
  | unsigned p ih => exact ih
  | base p ih => exact ih
  | raise b e ihb _ =>
      obtain ⟨first, rest, h, hopens⟩ := ihb
      exact ⟨first, rest ++ .caret :: e.tokens, by rw [tokens, h, List.cons_append], hopens⟩
  | number v => exact ⟨_, _, rfl, rfl⟩
  | group e _ => exact ⟨_, _, rfl, rfl⟩
  | name n => exact ⟨_, _, rfl, rfl⟩
  | callEmpty n => exact ⟨_, _, rfl, rfl⟩
  | call n args _ => exact ⟨_, _, rfl, rfl⟩
  | last e ih => exact ih
  | more e args ih _ =>
      obtain ⟨first, rest, h, hopens⟩ := ih
      exact ⟨first, rest ++ .comma :: args.tokens, by rw [tokens, h, List.cons_append], hopens⟩

end Tree

/-! ### Errors of values

Evaluating a tree can fail by a name, a number of arguments or a number, and by nothing else: what
is wrong with the arrangement of tokens is no longer there to be found.
-/

section Except

variable {α β : Type}

theorem Except.ok_bind (v : α) (f : α → Except CalcError β) : (.ok v >>= f) = f v := rfl

theorem Except.error_bind (e : CalcError) (f : α → Except CalcError β) :
    ((.error e : Except CalcError α) >>= f) = .error e := rfl

theorem Except.bind_eq_ok {a : Except CalcError α} {f : α → Except CalcError β} {r : β} :
    (a >>= f) = .ok r ↔ ∃ v, a = .ok v ∧ f v = .ok r := by
  cases a with
  | ok v => simp [Except.ok_bind]
  | error e => simp [Except.error_bind]

end Except

/-- An error of names and numbers, not of tokens. -/
def CalcError.ofValues : CalcError → Bool
  | .unknownIdentifier _ | .arity _ _ _ | .divisionByZero | .overflow => true
  | .empty | .unexpectedChar _ | .unexpectedEnd | .unexpectedToken _ | .tooDeep _ => false

/-- Fails by an error of values if it fails. -/
def FailsByValues {α : Type} (result : Except CalcError α) : Prop :=
  ∀ e, result = .error e → e.ofValues = true

namespace FailsByValues

variable {α β : Type}

theorem ok (v : α) : FailsByValues (.ok v) := by
  rintro e ⟨⟩

theorem error {e : CalcError} (h : e.ofValues = true) :
    FailsByValues (.error e : Except CalcError α) := by
  rintro e' ⟨⟩
  exact h

theorem bind {a : Except CalcError α} {f : α → Except CalcError β} (ha : FailsByValues a)
    (hf : ∀ v, FailsByValues (f v)) : FailsByValues (a >>= f) := by
  cases a with
  | ok v => exact hf v
  | error e => exact error (ha e rfl)

theorem ofInt (i : Int) : FailsByValues (Value.ofInt i) := by
  unfold Value.ofInt
  split
  · exact ok _
  · exact error rfl

theorem neg (v : Value) : FailsByValues v.neg := by
  cases v with
  | int i => exact ofInt (-i)
  | float x => exact ok _

theorem binary (op : BinOp) (v w : Value) : FailsByValues (op.apply v w) := by
  unfold BinOp.apply
  split
  · exact error rfl
  · split
    · next a b =>
        cases op with
        | rem => exact (ofInt _).bind fun _ => ofInt _
        | _ => exact ofInt _
    · exact ok _

theorem pow (v w : Value) : FailsByValues (v.pow w) := by
  unfold Value.pow
  split
  · split
    · unfold Value.powInt
      split
      · exact error rfl
      · split
        · exact ofInt _
        · split
          · exact ofInt _
          · exact error rfl
    · exact ok _
  · exact ok _

theorem constant (n : Text) : FailsByValues (Value.constant n) := by
  unfold Value.constant
  split
  · exact ok _
  · exact error rfl

theorem call (n : Text) (args : List Value) : FailsByValues (Value.call n args) := by
  unfold Value.call
  split
  · next f _ =>
      unfold Function.apply
      split
      · exact ofInt _
      · exact ok _
      · exact ok _
      · exact ok _
      · exact ok _
      · exact ok _
      · exact ok _
      · exact ok _
      · exact pow _ _
      · exact error rfl
  · exact error rfl

end FailsByValues

namespace Tree

/-- Evaluating a tree fails by an error of values if it fails. -/
theorem failsByValues {r : Rule} (t : Tree r) : FailsByValues t.eval := by
  induction t with
  | operand t ih => exact ih
  | binary a op _ b iha ihb => exact iha.bind fun v => ihb.bind fun w => .binary op v w
  | sign negative u ih =>
      refine ih.bind fun v => ?_
      cases negative with
      | true => exact .neg v
      | false => exact .ok v
  | unsigned p ih => exact ih
  | base p ih => exact ih
  | raise b e ihb ihe => exact ihb.bind fun v => ihe.bind fun w => .pow v w
  | number v => exact .ok v
  | group e ih => exact ih
  | name n => exact .constant n
  | callEmpty n => exact .call n []
  | call n args ih => exact ih.bind fun vs => .call n vs
  | last e ih => exact ih.bind fun v => .ok [v]
  | more e args ih ihargs => exact ih.bind fun v => ihargs.bind fun vs => .ok (v :: vs)

/-! ### Few levels -/

section Levels

variable {levels : Nat}

/-- With levels enough, counting them changes nothing. -/
theorem evalWithin_of_nesting_le {r : Rule} {t : Tree r} (h : t.nesting ≤ levels) :
    t.evalWithin levels = t.eval := by
  induction t generalizing levels with
  | operand t ih => exact ih h
  | binary a op _ b iha ihb =>
      obtain ⟨ha, hb⟩ := Nat.max_le.mp h
      rw [evalWithin, eval, iha ha, ihb hb]
  | sign negative u ih =>
      cases levels with
      | zero => cases h
      | succ levels => rw [evalWithin, eval, ih (Nat.le_of_succ_le_succ h)]
  | unsigned p ih =>
      cases levels with
      | zero => cases h
      | succ levels => rw [evalWithin, eval, ih (Nat.le_of_succ_le_succ h)]
  | base p ih => exact ih h
  | raise b e ihb ihe =>
      obtain ⟨hb, he⟩ := Nat.max_le.mp h
      rw [evalWithin, eval, ihb hb, ihe he]
  | number v => rfl
  | group e ih => exact ih h
  | name n => rfl
  | callEmpty n => rfl
  | call n args ih => rw [evalWithin, eval, ih h]
  | last e ih => rw [evalWithin, eval, ih h]
  | more e args ih ihargs =>
      obtain ⟨he, hargs⟩ := Nat.max_le.mp h
      rw [evalWithin, eval, ih he, ihargs hargs]

/-- `cut` gives up at the limit, or has failed before as `full` does. -/
def CutShort {α : Type} (cut full : Except CalcError α) : Prop :=
  cut = .error (.tooDeep Reader.nestingLimit) ∨ ∃ e, full = .error e ∧ cut = .error e

theorem CutShort.bind {α β : Type} {cut full : Except CalcError α} (h : CutShort cut full)
    (f g : α → Except CalcError β) : CutShort (cut >>= f) (full >>= g) := by
  rcases h with rfl | ⟨e, rfl, rfl⟩
  · exact Or.inl rfl
  · exact Or.inr ⟨e, rfl, rfl⟩

/-- Of two parts in sequence one is cut short: the first, or the second and not the first. -/
theorem CutShort.bind_bind {α β γ : Type} {cut full : Except CalcError α}
    {cut' full' : Except CalcError β}
    (h : CutShort cut full ∨ cut = full ∧ CutShort cut' full') (f : α → β → Except CalcError γ) :
    CutShort (cut >>= fun v => cut' >>= f v) (full >>= fun v => full' >>= f v) := by
  rcases h with h | ⟨rfl, h⟩
  · exact h.bind _ _
  · cases cut with
    | ok v => exact h.bind _ _
    | error e => exact Or.inr ⟨e, rfl, rfl⟩

theorem lt_max_cases {m n : Nat} (h : levels < max m n) :
    levels < m ∨ m ≤ levels ∧ levels < n := by
  omega

/-- With too few levels, a tree has no value: it goes too deep, unless it failed before that. -/
theorem evalWithin_of_lt_nesting {r : Rule} {t : Tree r} (h : levels < t.nesting) :
    CutShort (t.evalWithin levels) t.eval := by
  induction t generalizing levels with
  | operand t ih => exact ih h
  | binary a op _ b iha ihb =>
      exact .bind_bind ((lt_max_cases h).imp iha fun ⟨ha, hb⟩ =>
        ⟨evalWithin_of_nesting_le ha, ihb hb⟩) _
  | sign negative u ih =>
      cases levels with
      | zero => exact Or.inl rfl
      | succ levels => exact (ih (Nat.lt_of_succ_lt_succ h)).bind _ _
  | unsigned p ih =>
      cases levels with
      | zero => exact Or.inl rfl
      | succ levels => exact ih (Nat.lt_of_succ_lt_succ h)
  | base p ih => exact ih h
  | raise b e ihb ihe =>
      exact .bind_bind ((lt_max_cases h).imp ihb fun ⟨hb, he⟩ =>
        ⟨evalWithin_of_nesting_le hb, ihe he⟩) _
  | group e ih => exact ih h
  | call n args ih => exact (ih h).bind _ _
  | last e ih => exact (ih h).bind _ _
  | more e args ih ihargs =>
      exact .bind_bind ((lt_max_cases h).imp ih fun ⟨he, hargs⟩ =>
        ⟨evalWithin_of_nesting_le he, ihargs hargs⟩) _
  | number v => cases h
  | name n => cases h
  | callEmpty n => cases h

end Levels

end Tree

end AliasShell
