/-
Integers are computed exactly or not at all.

The expressions here hold whole numbers, signs, operators, `abs` and `pow`.  Such an expression
denotes an integer, `exact`, and comes to it by a number of operations, `operations`, each of them
on integers of any size and in the order in which a reader from left to right comes to do them.
`fault` says what the calculator has against an operation: a zero divisor, a result beyond 64 bits,
and two operations that it refuses whatever their result is.

`evaluate_exact` says that these are all there is to know.  If no operation has a fault, the value
is the integer denoted; otherwise the first fault is the error.  So no step wraps around, and none
is refused for the sake of a later one.
-/
import AliasShell.Proofs.Calc.Reading
import Mathlib.Algebra.Order.Ring.Int

namespace AliasShell

/-! ### Operations -/

/-- The operation on integers of any size.  Quotients go toward zero, and a remainder has the sign
of what is divided. -/
def BinOp.exact : BinOp → Int → Int → Int
  | .add, a, b => a + b
  | .sub, a, b => a - b
  | .mul, a, b => a * b
  | .div, a, b => a.tdiv b
  | .rem, a, b => a.tmod b

/-- An operation with its operands. -/
inductive IntOperation where
  | binary (op : BinOp) (a b : Int)
  | neg (a : Int)
  | abs (a : Int)
  | pow (b e : Int)
  deriving Repr, DecidableEq

namespace IntOperation

/-- What comes out.  No power here has a negative exponent. -/
def result : IntOperation → Int
  | .binary op a b => op.exact a b
  | .neg a => -a
  | .abs a => a.natAbs
  | .pow b e => b ^ e.toNat

/-- A quotient or a remainder by zero. -/
def DividesByZero : IntOperation → Prop
  | .binary op _ b => op.divides = true ∧ b = 0
  | _ => False

instance : DecidablePred DividesByZero := fun o => by
  unfold DividesByZero
  split <;> infer_instance

/-- The operation is not refused for its operands alone: a remainder whose quotient does not fit, or
an exponent of more than 32 bits. -/
def Admissible : IntOperation → Prop
  | .binary .rem a b => ¬ (a = Integer.least ∧ b = -1)
  | .pow _ e => e ≤ 4294967295
  | _ => True

instance : DecidablePred Admissible := fun o => by
  unfold Admissible
  split <;> infer_instance

/-- What there is against an operation. -/
def fault (o : IntOperation) : Option CalcError :=
  if o.DividesByZero then some .divisionByZero
  else if o.Admissible ∧ Integer.InRange o.result then none
  else some .overflow

/-- The first fault, or else `r`. -/
def attempt (os : List IntOperation) (r : Except CalcError Value) : Except CalcError Value :=
  match os.findSome? fault with
  | some e => .error e
  | none => r

theorem attempt_append (xs ys : List IntOperation) (r : Except CalcError Value) :
    attempt (xs ++ ys) r = attempt xs (attempt ys r) := by
  unfold attempt
  rw [List.findSome?_append]
  cases xs.findSome? fault <;> rfl

theorem attempt_bind (os : List IntOperation) (v : Value) (f : Value → Except CalcError Value) :
    (attempt os (.ok v) >>= f) = attempt os (f v) := by
  unfold attempt
  cases os.findSome? fault <;> rfl

theorem attempt_congr {os : List IntOperation} {r r' : Except CalcError Value}
    (h : os.findSome? fault = none → r = r') : attempt os r = attempt os r' := by
  unfold attempt
  cases hos : os.findSome? fault with
  | none => exact h hos
  | some e => rfl

theorem fault_eq_none_iff {o : IntOperation} :
    o.fault = none ↔ ¬ o.DividesByZero ∧ o.Admissible ∧ Integer.InRange o.result := by
  unfold fault
  by_cases hzero : o.DividesByZero
  · simp [hzero]
  · by_cases hfine : o.Admissible ∧ Integer.InRange o.result
    · simp [hzero, hfine]
    · simp only [hzero, hfine, if_false, not_false_eq_true, true_and, reduceCtorEq]

theorem attempt_eq_ok {os : List IntOperation} {v w : Value} :
    attempt os (.ok v) = .ok w ↔ (∀ o ∈ os, o.fault = none) ∧ w = v := by
  rw [← List.findSome?_eq_none_iff, attempt]
  cases os.findSome? fault with
  | none => simp [eq_comm]
  | some e => simp

/-- The first fault is the error. -/
theorem attempt_eq_error {before after : List IntOperation} {o : IntOperation} {e : CalcError}
    (hbefore : ∀ b ∈ before, b.fault = none) (ho : o.fault = some e)
    (r : Except CalcError Value) : attempt (before ++ o :: after) r = .error e := by
  rw [attempt, List.findSome?_append, List.findSome?_eq_none_iff.mpr hbefore, Option.none_or,
    List.findSome?_cons, ho]

/-- The outcome of a single operation. -/
def outcome (o : IntOperation) : Except CalcError Value := attempt [o] (.ok (.int o.result))

theorem outcome_eq (o : IntOperation) :
    o.outcome =
      if o.DividesByZero then .error .divisionByZero
      else if o.Admissible ∧ Integer.InRange o.result then .ok (.int o.result)
      else .error .overflow := by
  unfold outcome attempt
  rw [List.findSome?_cons, List.findSome?_nil, fault]
  by_cases hzero : o.DividesByZero
  · rw [if_pos hzero, if_pos hzero]
  · rw [if_neg hzero, if_neg hzero]
    by_cases hfine : o.Admissible ∧ Integer.InRange o.result
    · rw [if_pos hfine, if_pos hfine]
    · rw [if_neg hfine, if_neg hfine]

/-- Where only the result counts. -/
theorem outcome_eq_ofInt {o : IntOperation} (hzero : ¬ o.DividesByZero) (h : o.Admissible) :
    o.outcome = Value.ofInt o.result := by
  rw [outcome_eq, if_neg hzero, Value.ofInt]
  simp only [h, true_and]

end IntOperation

open IntOperation

/-! ### The calculator's operations -/

section Quotients

variable {a b : Int}

/-- The only quotient of integers of 64 bits that is not one. -/
theorem inRange_tdiv_iff (ha : Integer.InRange a) (hb : b ≠ 0) :
    Integer.InRange (a.tdiv b) ↔ ¬ (a = Integer.least ∧ b = -1) := by
  unfold Integer.InRange Integer.least Integer.greatest at *
  by_cases hone : b = 1
  · subst hone
    rw [Int.tdiv_one]
    omega
  · by_cases hminus : b = -1
    · subst hminus
      rw [Int.tdiv_neg, Int.tdiv_one]
      omega
    · have hq : (a.tdiv b).natAbs = a.natAbs / b.natAbs := Int.natAbs_tdiv a b
      have hhalf : a.natAbs / b.natAbs ≤ a.natAbs / 2 := Nat.div_le_div_left (by omega) (by omega)
      omega

theorem inRange_tmod (ha : Integer.InRange b) (hb : b ≠ 0) :
    Integer.InRange (a.tmod b) := by
  unfold Integer.InRange Integer.least Integer.greatest at *
  have hr : (a.tmod b).natAbs = a.natAbs % b.natAbs := Int.natAbs_tmod a b
  have hlt : a.natAbs % b.natAbs < b.natAbs := Nat.mod_lt _ (by omega)
  omega

end Quotients

theorem apply_int {a b : Int} (op : BinOp) (ha : Integer.InRange a) (hb : Integer.InRange b) :
    op.apply (.int a) (.int b) = (IntOperation.binary op a b).outcome := by
  by_cases hzero : op.divides = true ∧ b = 0
  · obtain ⟨hdivides, rfl⟩ := hzero
    rw [outcome_eq, if_pos ⟨hdivides, rfl⟩, BinOp.apply, hdivides]
    rfl
  · have hzero' : ¬ (IntOperation.binary op a b).DividesByZero := hzero
    have hif : ¬ (op.divides && (Value.int b).isZero) = true := by
      simpa [Value.isZero] using hzero
    rw [BinOp.apply, if_neg hif]
    cases op with
    | rem =>
        have hb0 : b ≠ 0 := fun h => hzero ⟨rfl, h⟩
        show (Value.ofInt (a.tdiv b) >>= fun _ => Value.ofInt (a.tmod b)) = _
        rw [outcome_eq, if_neg hzero']
        by_cases hleast : a = Integer.least ∧ b = -1
        · rw [Value.ofInt_eq_error (mt (inRange_tdiv_iff ha hb0).mp (not_not_intro hleast)),
            if_neg fun h => h.1 hleast]
          rfl
        · rw [Value.ofInt_eq_ok ((inRange_tdiv_iff ha hb0).mpr hleast), Except.ok_bind,
            Value.ofInt_eq_ok (inRange_tmod hb hb0), if_pos ⟨hleast, inRange_tmod hb hb0⟩]
          rfl
    | _ => exact (outcome_eq_ofInt hzero' trivial).symm

theorem neg_int (a : Int) : (Value.int a).neg = (IntOperation.neg a).outcome :=
  (outcome_eq_ofInt (o := .neg a) id trivial).symm

theorem abs_int (name : Text) (a : Int) :
    Function.apply name .abs [.int a] = (IntOperation.abs a).outcome :=
  (outcome_eq_ofInt (o := .abs a) id trivial).symm

/-- Powers of 0, 1 and -1 go round. -/
theorem pow_of_natAbs_le_one {b : Int} (h : b.natAbs ≤ 1) {n : Nat} (hn : 1 ≤ n) :
    b ^ n = b ^ (2 + n % 2) := by
  have hcases : b = 0 ∨ b = 1 ∨ b = -1 := by omega
  rcases hcases with rfl | rfl | rfl
  · rw [zero_pow (by omega), zero_pow (by omega)]
  · rw [one_pow, one_pow]
  · rw [← Nat.div_add_mod n 2, pow_add, pow_mul, pow_add]
    norm_num

/-- Powers of anything else soon have more than 64 bits. -/
theorem not_inRange_pow {b : Int} (h : ¬ b.natAbs ≤ 1) {n : Nat} (hn : 64 ≤ n) :
    ¬ Integer.InRange (b ^ n) := by
  have hbig : 2 ^ 64 ≤ (b ^ n).natAbs := by
    rw [Int.natAbs_pow]
    calc 2 ^ 64 ≤ 2 ^ n := Nat.pow_le_pow_right (by decide) hn
      _ ≤ b.natAbs ^ n := Nat.pow_le_pow_left (by omega) n
  unfold Integer.InRange Integer.least Integer.greatest
  omega

theorem pow_int {b e : Int} (he : 0 ≤ e) :
    (Value.int b).pow (.int e) = (IntOperation.pow b e).outcome := by
  have hpow : (Value.int b).pow (.int e) = Value.powInt b e.toNat := if_pos he
  rw [hpow, Value.powInt, Value.greatestExponent]
  by_cases hexp : e ≤ 4294967295
  · rw [if_neg (by omega), outcome_eq_ofInt (o := .pow b e) id hexp]
    split
    · rfl
    · split
      · next hlarge hone =>
          show Value.ofInt (b ^ (2 + e.toNat % 2)) = Value.ofInt (b ^ e.toNat)
          rw [← pow_of_natAbs_le_one hone (by omega)]
      · next hlarge hone =>
          exact (Value.ofInt_eq_error (not_inRange_pow hone (by omega))).symm
  · have hzero : ¬ (IntOperation.pow b e).DividesByZero := id
    rw [if_pos (by omega), outcome_eq, if_neg hzero, if_neg fun h => hexp h.1]

/-! ### Expressions of integers -/

/-- What a call does to these arguments, if it is of `abs` or `pow` and has as many as they take. -/
def IntOperation.ofCall? (name : Text) (args : List Int) : Option IntOperation :=
  match Function.ofName? name, args with
  | some .abs, [a] => some (.abs a)
  | some .pow, [b, e] => some (.pow b e)
  | _, _ => none

namespace Tree

/-- Whole numbers, signs, operators, and calls of `abs` and `pow`. -/
inductive Integral : {c : Category} → Phrase c → Prop
  | operand {k : Strength} {t : Phrase k.operand} (h : Integral t) : Integral (.operand (k := k) t)
  | binary {k : Strength} {a : Phrase (.chain k)} {op : BinOp} {picked : k.picks op = true}
      {b : Phrase k.operand} (ha : Integral a) (hb : Integral b) : Integral (.binary a op picked b)
  | sign {negative : Bool} {u : Phrase .unary} (h : Integral u) : Integral (.sign negative u)
  | unsigned {p : Phrase .power} (h : Integral p) : Integral (.unsigned p)
  | base {p : Phrase .primary} (h : Integral p) : Integral (.base p)
  | raise {b : Phrase .primary} {e : Phrase .unary} (hb : Integral b) (he : Integral e) :
      Integral (.raise b e)
  | number (i : Int) : Integral (.number (.int i))
  | group {e : Phrase .expr} (h : Integral e) : Integral (.group e)
  | abs {n : Text} {a : Phrase .expr} (hn : Function.ofName? n = some .abs) (ha : Integral a) :
      Integral (.call n (.last a))
  | pow {n : Text} {b e : Phrase .expr} (hn : Function.ofName? n = some .pow) (hb : Integral b)
      (he : Integral e) : Integral (.call n (.more b (.last e)))

/-- The integer that an expression denotes, or those that arguments denote. -/
def exact : {r : Rule} → Tree r → r.Of Int
  | _, .operand t => t.exact
  | _, .binary a op _ b => op.exact a.exact b.exact
  | _, .sign negative u => if negative then -u.exact else u.exact
  | _, .unsigned p => p.exact
  | _, .base p => p.exact
  | _, .raise b e => (IntOperation.pow b.exact e.exact).result
  | _, .number (.int i) => i
  | _, .number (.float _) => 0
  | _, .group e => e.exact
  | _, .name _ => 0
  | _, .callEmpty _ => 0
  | _, .call n args => ((ofCall? n args.exact).map result).getD 0
  | _, .last e => [e.exact]
  | _, .more e args => e.exact :: args.exact

/-- The operations by which an expression comes to what it denotes, the first one first. -/
def operations : {r : Rule} → Tree r → List IntOperation
  | _, .operand t => t.operations
  | _, .binary a op _ b => a.operations ++ (b.operations ++ [.binary op a.exact b.exact])
  | _, .sign negative u => u.operations ++ if negative then [.neg u.exact] else []
  | _, .unsigned p => p.operations
  | _, .base p => p.operations
  | _, .raise b e => b.operations ++ (e.operations ++ [.pow b.exact e.exact])
  | _, .number _ => []
  | _, .group e => e.operations
  | _, .name _ => []
  | _, .callEmpty _ => []
  | _, .call n args => args.operations ++ (ofCall? n args.exact).toList
  | _, .last e => e.operations
  | _, .more e args => e.operations ++ args.operations

/-- What the exponents in an expression come to, those of `^` and those of `pow`. -/
def exponents : {r : Rule} → Tree r → List (Except CalcError Value)
  | _, .operand t => t.exponents
  | _, .binary a _ _ b => a.exponents ++ b.exponents
  | _, .sign _ u => u.exponents
  | _, .unsigned p => p.exponents
  | _, .base p => p.exponents
  | _, .raise b e => b.exponents ++ (e.exponents ++ [e.eval])
  | _, .number _ => []
  | _, .group e => e.exponents
  | _, .name _ => []
  | _, .callEmpty _ => []
  | _, .call n args =>
    args.exponents ++
      match Function.ofName? n, args with
      | some .pow, .more _ (.last e) => [e.eval]
      | _, _ => []
  | _, .last e => e.exponents
  | _, .more e args => e.exponents ++ args.exponents

/-! ### Their values -/

/-- The value is the integer denoted, which fits, or else the first fault. -/
structure Agrees {c : Category} (t : Phrase c) : Prop where
  eval : t.eval = attempt t.operations (.ok (.int t.exact))
  inRange : t.operations.findSome? fault = none → Integer.InRange t.exact

/-- Without a fault, an operation has the value of its result, and that fits. -/
theorem inRange_of_outcome {os : List IntOperation} {o : IntOperation}
    (h : (os ++ [o]).findSome? fault = none) : Integer.InRange o.result := by
  have ho : o.fault = none := by
    rw [List.findSome?_append, Option.or_eq_none_iff] at h
    simpa using h.2
  unfold fault at ho
  split at ho
  · cases ho
  · split at ho
    · next hfine => exact hfine.2
    · cases ho

/-- One operand, then the operation on it. -/
theorem attempt_unary {os : List IntOperation} {a : Int} {o : IntOperation}
    (f : Value → Except CalcError Value) (hf : f (.int a) = o.outcome) :
    (attempt os (.ok (.int a)) >>= f) = attempt (os ++ [o]) (.ok (.int o.result)) := by
  rw [attempt_bind, hf, outcome, attempt_append]

/-- Two operands, then the operation on them, which sees only operands without a fault. -/
theorem attempt_binary {xs ys : List IntOperation} {a b : Int} {o : IntOperation}
    (f : Value → Value → Except CalcError Value)
    (hf : xs.findSome? fault = none → ys.findSome? fault = none →
      f (.int a) (.int b) = o.outcome) :
    (attempt xs (.ok (.int a)) >>= fun v => attempt ys (.ok (.int b)) >>= f v) =
      attempt (xs ++ (ys ++ [o])) (.ok (.int o.result)) := by
  rw [attempt_bind, attempt_append]
  refine attempt_congr fun hx => ?_
  rw [attempt_bind, attempt_append]
  exact attempt_congr fun hy => hf hx hy

theorem Agrees.exponent_nonneg {c : Category} {e : Phrase c} (h : Agrees e)
    (hnonneg : ∀ i, e.eval = .ok (.int i) → 0 ≤ i) (hnone : e.operations.findSome? fault = none) :
    0 ≤ e.exact :=
  hnonneg e.exact (by rw [h.eval, attempt, hnone])

theorem eval_call_last (n : Text) (a : Phrase .expr) :
    (Tree.call n (.last a)).eval = (a.eval >>= fun v => Value.call n [v]) := by
  rw [Tree.eval, Tree.eval]
  cases a.eval <;> rfl

theorem eval_call_more_last (n : Text) (b e : Phrase .expr) :
    (Tree.call n (.more b (.last e))).eval =
      (b.eval >>= fun v => e.eval >>= fun w => Value.call n [v, w]) := by
  rw [Tree.eval, Tree.eval, Tree.eval]
  cases b.eval with
  | error e => rfl
  | ok v => cases e.eval <;> rfl

/-- **An expression of integers has the value that it denotes, or its first fault.** -/
theorem Integral.agrees {c : Category} {t : Phrase c} (h : Integral t)
    (hfits : ∀ token ∈ t.tokens, token.Fits)
    (hnonneg : ∀ i, .ok (.int i) ∈ t.exponents → 0 ≤ i) : Agrees t := by
  induction h with
  | operand _ ih => exact ⟨(ih hfits hnonneg).eval, (ih hfits hnonneg).inRange⟩
  | @binary k a op picked b _ _ iha ihb =>
      have ha := iha (fun token hm => hfits token (List.mem_append_left _ hm))
        fun i hi => hnonneg i (List.mem_append_left _ hi)
      have hb := ihb
        (fun token hm => hfits token (List.mem_append_right _ (List.mem_cons_of_mem _ hm)))
        fun i hi => hnonneg i (List.mem_append_right _ hi)
      refine ⟨?_, fun hnone => ?_⟩
      · rw [Tree.eval, ha.eval, hb.eval]
        exact attempt_binary op.apply fun hx hy => apply_int op (ha.inRange hx) (hb.inRange hy)
      · rw [operations, ← List.append_assoc] at hnone
        exact inRange_of_outcome hnone
  | @sign negative u _ ih =>
      have hu := ih (fun token hm => hfits token (List.mem_cons_of_mem _ hm)) hnonneg
      cases negative with
      | true =>
          refine ⟨?_, fun hnone => inRange_of_outcome (o := .neg u.exact) hnone⟩
          rw [Tree.eval, hu.eval]
          exact attempt_unary Value.neg (neg_int u.exact)
      | false =>
          have hops : (Tree.sign false u).operations = u.operations := List.append_nil _
          refine ⟨?_, fun hnone => hu.inRange (hops ▸ hnone)⟩
          rw [Tree.eval, hu.eval, hops]
          exact attempt_bind _ _ _
  | unsigned _ ih => exact ⟨(ih hfits hnonneg).eval, (ih hfits hnonneg).inRange⟩
  | base _ ih => exact ⟨(ih hfits hnonneg).eval, (ih hfits hnonneg).inRange⟩
  | @raise b e _ _ ihb ihe =>
      have hb := ihb (fun token hm => hfits token (List.mem_append_left _ hm))
        fun i hi => hnonneg i (List.mem_append_left _ hi)
      have he := ihe
        (fun token hm => hfits token (List.mem_append_right _ (List.mem_cons_of_mem _ hm)))
        fun i hi => hnonneg i (List.mem_append_right _ (List.mem_append_left _ hi))
      refine ⟨?_, fun hnone => ?_⟩
      · rw [Tree.eval, hb.eval, he.eval]
        refine attempt_binary Value.pow fun _ hy => pow_int (he.exponent_nonneg ?_ hy)
        intro i hi
        exact hnonneg i (by simp [exponents, hi])
      · rw [operations, ← List.append_assoc] at hnone
        exact inRange_of_outcome (o := .pow b.exact e.exact) hnone
  | number i => exact ⟨rfl, fun _ => hfits (.number (.int i)) (List.mem_singleton_self _)⟩
  | group _ ih =>
      have he := ih
        (fun token hm => hfits token (List.mem_cons_of_mem _ (List.mem_append_left _ hm))) hnonneg
      exact ⟨he.eval, he.inRange⟩
  | @abs n a hn _ ih =>
      have ha := ih
        (fun token hm => hfits token (by simp [tokens, hm]))
        fun i hi => hnonneg i (by simp [exponents, hi])
      have hcall : ofCall? n (Tree.last a).exact = some (.abs a.exact) := by
        simp [ofCall?, hn, exact]
      have hops : (Tree.call n (.last a)).operations = a.operations ++ [.abs a.exact] := by
        rw [operations, hcall]
        rfl
      have hexact : (Tree.call n (.last a)).exact = (IntOperation.abs a.exact).result := by
        rw [exact, hcall]
        rfl
      refine ⟨?_, fun hnone => ?_⟩
      · rw [eval_call_last, ha.eval, hops, hexact]
        refine attempt_unary (fun v => Value.call n [v]) ?_
        rw [Value.call, hn]
        exact abs_int n a.exact
      · rw [hexact]
        exact inRange_of_outcome (hops ▸ hnone)
  | @pow n b e hn _ _ ihb ihe =>
      have hb := ihb
        (fun token hm => hfits token (by simp [tokens, hm]))
        fun i hi => hnonneg i (by simp [exponents, hi])
      have he := ihe
        (fun token hm => hfits token (by simp [tokens, hm]))
        fun i hi => hnonneg i (by simp [exponents, hi])
      have hcall : ofCall? n (Tree.more b (.last e)).exact = some (.pow b.exact e.exact) := by
        simp [ofCall?, hn, exact]
      have hops : (Tree.call n (.more b (.last e))).operations =
          b.operations ++ (e.operations ++ [.pow b.exact e.exact]) := by
        rw [operations, hcall, ← List.append_assoc]
        rfl
      have hexact : (Tree.call n (.more b (.last e))).exact =
          (IntOperation.pow b.exact e.exact).result := by
        rw [exact, hcall]
        rfl
      refine ⟨?_, fun hnone => ?_⟩
      · rw [eval_call_more_last, hb.eval, he.eval, hops, hexact]
        refine attempt_binary (fun v w => Value.call n [v, w]) fun _ hy => ?_
        rw [Value.call, hn]
        refine pow_int (he.exponent_nonneg ?_ hy)
        intro i hi
        exact hnonneg i (by simp [exponents, hn, hi])
      · rw [hexact]
        rw [hops, ← List.append_assoc] at hnone
        exact inRange_of_outcome hnone

end Tree

/-! ### Whole texts -/

open AliasShell.Tree

/-- **Integers never wrap around.**  Let a text spell an expression of whole numbers, signs,
operators, `abs` and `pow` that is not nested too deeply and has no exponent below zero.

If it has a value, that is the integer it denotes, and every number in it and every result on the
way fits into 64 bits.  If all of these fit, no divisor is zero, no exponent has more than 32 bits
and no remainder is that of the least integer by -1, it has a value.  If its numbers fit, the first
operation with a fault decides the error, and the fault is the division by zero or else the
overflow.  If one of them does not, that is an overflow, whatever else the text holds. -/
theorem evaluate_exact {text : Text} {t : Phrase .expr} (hspells : Spells text t.tokens)
    (hintegral : t.Integral) (hnest : t.nesting ≤ 256)
    (hnonneg : ∀ i, .ok (.int i) ∈ t.exponents → 0 ≤ i) :
    (∀ v, evaluate text = .ok v →
      v = .int t.exact ∧ (∀ i, .number (.int i) ∈ t.tokens → Integer.InRange i) ∧
        ∀ o ∈ t.operations, Integer.InRange o.result) ∧
    ((∀ i, .number (.int i) ∈ t.tokens → Integer.InRange i) →
      (∀ o ∈ t.operations, Integer.InRange o.result ∧ ¬ o.DividesByZero ∧ o.Admissible) →
        evaluate text = .ok (.int t.exact)) ∧
    ((∀ i, .number (.int i) ∈ t.tokens → Integer.InRange i) →
      ∀ before o after, t.operations = before ++ o :: after →
        (∀ b ∈ before, b.fault = none) → ∀ e, o.fault = some e → evaluate text = .error e) ∧
    ((∃ i, .number (.int i) ∈ t.tokens ∧ ¬ Integer.InRange i) →
      evaluate text = .error .overflow) := by
  have hvalue : (∀ i, .number (.int i) ∈ t.tokens → Integer.InRange i) →
      evaluate text = attempt t.operations (.ok (.int t.exact)) := by
    intro hrange
    have hfits := Token.forall_fits_iff.mpr hrange
    have hlex : tokens text = .ok t.tokens := by
      rw [tokens_of_spells hspells, fitting, if_pos hfits]
    have heval : t.evalWithin Reader.nestingLimit = t.eval := evalWithin_of_nesting_le hnest
    rw [evaluate_eq_evalWithin hlex rfl, heval]
    exact (hintegral.agrees hfits hnonneg).eval
  have hoverflow : (∃ i, .number (.int i) ∈ t.tokens ∧ ¬ Integer.InRange i) →
      evaluate text = .error .overflow := by
    rintro ⟨i, hi, hrange⟩
    have hlex : tokens text = .error .overflow := by
      rw [tokens_of_spells hspells, fitting, if_neg fun hfits => hrange (hfits _ hi)]
    rw [evaluate, hlex]
    rfl
  refine ⟨fun v hv => ?_, fun hrange hfine => ?_, ?_, hoverflow⟩
  · have hrange : ∀ i, .number (.int i) ∈ t.tokens → Integer.InRange i := by
      intro i hi
      by_contra hbig
      rw [hoverflow ⟨i, hi, hbig⟩] at hv
      cases hv
    rw [hvalue hrange] at hv
    obtain ⟨hnone, rfl⟩ := attempt_eq_ok.mp hv
    exact ⟨rfl, hrange, fun o ho => (fault_eq_none_iff.mp (hnone o ho)).2.2⟩
  · rw [hvalue hrange]
    refine attempt_eq_ok.mpr ⟨fun o ho => fault_eq_none_iff.mpr ?_, rfl⟩
    obtain ⟨hresult, hzero, hadmissible⟩ := hfine o ho
    exact ⟨hzero, hadmissible, hresult⟩
  · intro hrange before o after hops hbefore e he
    rw [hvalue hrange, hops]
    exact attempt_eq_error hbefore he _

/-- A quotient goes toward zero; of two faults the left one counts; and a number that is too great
counts more than a fault before it. -/
theorem evaluate_exact_division :
    evaluate "-7/2" = .ok (.int (-3)) ∧ evaluate "1/0-9^99" = .error .divisionByZero ∧
      evaluate "1/0-9999999999999999999" = .error .overflow := by
  let one (i : Int) : Phrase .unary := .unsigned (.base (.number (.int i)))
  let power (b e : Int) : Phrase .unary := .unsigned (.raise (.number (.int b)) (one e))
  let quotient (u w : Phrase .unary) : Phrase .term := .binary (.operand u) .div rfl w
  let minus (a b : Phrase .term) : Phrase .expr := .binary (.operand a) .sub rfl b
  have hone (i : Int) : (one i).Integral := .unsigned (.base (.number i))
  have hpower (b e : Int) : (power b e).Integral := .unsigned (.raise (.number b) (hone e))
  have hzero : (quotient (one 1) (one 0)).Integral := .binary (.operand (hone 1)) (hone 0)
  refine ⟨?_, ?_, ?_⟩
  · let t : Phrase .expr := .operand (quotient (.sign true (one 7)) (one 2))
    have hspells : Spells "-7/2" t.tokens :=
      .symbol rfl (.run ['7'] rfl rfl rfl (.symbol rfl (.run ['2'] rfl rfl rfl .nil)))
    have hintegral : t.Integral := .operand (.binary (.operand (.sign (hone 7))) (hone 2))
    have hnonneg : ∀ i, .ok (.int i) ∈ t.exponents → 0 ≤ i := by rintro i ⟨⟩
    exact (evaluate_exact hspells hintegral (by decide) hnonneg).2.1
      (Token.forall_fits_iff.mp (by decide)) (by decide)
  · let t : Phrase .expr := minus (quotient (one 1) (one 0)) (.operand (power 9 99))
    have hspells : Spells "1/0-9^99" t.tokens :=
      .run ['1'] rfl rfl rfl (.symbol rfl (.run ['0'] rfl rfl rfl (.symbol rfl
        (.run ['9'] rfl rfl rfl (.symbol rfl (.run ['9', '9'] rfl rfl rfl .nil))))))
    have hintegral : t.Integral := .binary (.operand hzero) (.operand (hpower 9 99))
    have hnonneg : ∀ i, .ok (.int i) ∈ t.exponents → 0 ≤ i := by
      intro i hi
      cases List.mem_singleton.mp (show _ ∈ [(one 99).eval] from hi)
      decide
    exact (evaluate_exact hspells hintegral (by decide) hnonneg).2.2.1
      (Token.forall_fits_iff.mp (by decide)) [] (.binary .div 1 0)
      [.pow 9 99, .binary .sub (exact (quotient (one 1) (one 0))) (exact (power 9 99))] rfl
      (by simp) .divisionByZero rfl
  · let t : Phrase .expr := minus (quotient (one 1) (one 0)) (.operand (one 9999999999999999999))
    have hspells : Spells "1/0-9999999999999999999" t.tokens :=
      .run ['1'] rfl rfl rfl (.symbol rfl (.run ['0'] rfl rfl rfl (.symbol rfl
        (.run (List.replicate 19 '9') rfl rfl rfl .nil))))
    have hintegral : t.Integral := .binary (.operand hzero) (.operand (hone _))
    have hnonneg : ∀ i, .ok (.int i) ∈ t.exponents → 0 ≤ i := by rintro i ⟨⟩
    exact (evaluate_exact hspells hintegral (by decide) hnonneg).2.2.2
      ⟨9999999999999999999,
        List.mem_append_right _ (List.mem_cons_of_mem _ (List.mem_singleton_self _)), by decide⟩

end AliasShell
