/-
How deeply an expression may nest.

The reader counts how often it enters `unary`, and that is not quite what one sees in an expression.
What encloses a number are parentheses, signs, calls and the exponents that it stands in, and
`unary` is entered once for each of these and once more for the number itself, as
`longest_enclosures` says by induction on the tree.  So 256 levels are room for 255 enclosures.

The limit is said to be one of parentheses, signs and calls.  Within what the reader counts there
are no more of them than enclosures, so where there are more than 256 there is no value; but an
exponent counts as well, and the last of 256 is not accepted.
-/
import AliasShell.Proofs.Calc.Range

namespace AliasShell

/-- What can enclose a number. -/
inductive Enclosure where
  | parentheses
  | sign
  | call
  | exponent
  deriving Repr, DecidableEq

/-- Those that the limit is said to count. -/
def Enclosure.documented : Enclosure → Bool
  | .parentheses | .sign | .call => true
  | .exponent => false

/-- How often `unary` is entered for what nothing encloses. -/
def Rule.entries : Rule → Nat
  | .phrase .power | .phrase .primary => 0
  | .phrase (.chain _) | .phrase .unary | .arguments => 1

theorem Rule.entries_operand (k : Strength) : Rule.entries (.phrase k.operand) = 1 := by
  cases k <;> rfl

namespace Tree

/-- What encloses each number, name and call without arguments, the outermost first. -/
def enclosures : {r : Rule} → Tree r → List (List Enclosure)
  | _, .operand t => t.enclosures
  | _, .binary a _ _ b => a.enclosures ++ b.enclosures
  | _, .sign _ u => u.enclosures.map (.sign :: ·)
  | _, .unsigned p => p.enclosures
  | _, .base p => p.enclosures
  | _, .raise b e => b.enclosures ++ e.enclosures.map (.exponent :: ·)
  | _, .number _ => [[]]
  | _, .group e => e.enclosures.map (.parentheses :: ·)
  | _, .name _ => [[]]
  | _, .callEmpty _ => [[]]
  | _, .call _ args => args.enclosures.map (.call :: ·)
  | _, .last e => e.enclosures
  | _, .more e args => e.enclosures ++ args.enclosures

/-! ### Levels and enclosures -/

end Tree

/-- The longest of these has `n` enclosures, counting `k` more for each. -/
structure Longest (paths : List (List Enclosure)) (k n : Nat) : Prop where
  le : ∀ path ∈ paths, path.length + k ≤ n
  attained : ∃ path ∈ paths, path.length + k = n

namespace Longest

variable {xs ys : List (List Enclosure)} {k m n : Nat}

theorem single (k : Nat) : Longest [[]] k k where
  le := by simp
  attained := ⟨[], by simp⟩

theorem append (hx : Longest xs k m) (hy : Longest ys k n) : Longest (xs ++ ys) k (max m n) where
  le path hpath := by
    rcases List.mem_append.mp hpath with hpath | hpath
    · exact Nat.le_trans (hx.le path hpath) (Nat.le_max_left m n)
    · exact Nat.le_trans (hy.le path hpath) (Nat.le_max_right m n)
  attained := by
    rcases Nat.le_total n m with hle | hle
    · obtain ⟨path, hpath, heq⟩ := hx.attained
      exact ⟨path, List.mem_append_left _ hpath, heq.trans (Nat.max_eq_left hle).symm⟩
    · obtain ⟨path, hpath, heq⟩ := hy.attained
      exact ⟨path, List.mem_append_right _ hpath, heq.trans (Nat.max_eq_right hle).symm⟩

theorem succ (h : Longest xs k n) : Longest xs (k + 1) (n + 1) where
  le path hpath := Nat.succ_le_succ (h.le path hpath)
  attained := by
    obtain ⟨path, hpath, heq⟩ := h.attained
    exact ⟨path, hpath, congrArg Nat.succ heq⟩

/-- An enclosure takes the place of one that was counted more. -/
theorem enclose (h : Longest xs (k + 1) n) (e : Enclosure) :
    Longest (xs.map (e :: ·)) k n where
  le path hpath := by
    obtain ⟨inner, hinner, rfl⟩ := List.mem_map.mp hpath
    have hle := h.le inner hinner
    rw [List.length_cons]
    omega
  attained := by
    obtain ⟨path, hpath, heq⟩ := h.attained
    refine ⟨e :: path, List.mem_map_of_mem hpath, ?_⟩
    rw [List.length_cons]
    omega

end Longest

namespace Tree

/-- **`unary` is entered for every enclosure**, and for what is enclosed. -/
theorem longest_enclosures {r : Rule} (t : Tree r) : Longest t.enclosures r.entries t.nesting := by
  induction t with
  | @operand k t ih =>
      rw [Rule.entries_operand] at ih
      exact ih
  | @binary k a op _ b iha ihb =>
      rw [Rule.entries_operand] at ihb
      exact iha.append ihb
  | sign negative u ih => exact ih.succ.enclose .sign
  | unsigned p ih => exact ih.succ
  | base p ih => exact ih
  | raise b e ihb ihe => exact ihb.append (ihe.enclose .exponent)
  | number v => exact .single 0
  | group e ih => exact ih.enclose .parentheses
  | name n => exact .single 0
  | callEmpty n => exact .single 0
  | call n args ih => exact ih.enclose .call
  | last e ih => exact ih
  | more e args ih ihargs => exact ih.append ihargs

/-- A whole expression has a level for each enclosure and one more. -/
theorem nesting_le_iff {t : Phrase .expr} {n : Nat} :
    t.nesting ≤ n + 1 ↔ ∀ path ∈ t.enclosures, path.length ≤ n := by
  constructor
  · intro hle path hpath
    exact Nat.le_of_succ_le_succ (Nat.le_trans (t.longest_enclosures.le path hpath) hle)
  · intro hall
    obtain ⟨path, hpath, heq⟩ := t.longest_enclosures.attained
    rw [← heq]
    exact Nat.succ_le_succ (hall path hpath)

end Tree

/-! ### The limit -/

section Limit

variable {text : Text} {t : Phrase .expr}

/-- One enclosure more, and there is no value. -/
theorem evaluate_of_lt_length (hlex : tokens text = .ok t.tokens)
    (h : ∃ path ∈ t.enclosures, 255 < path.length) :
    evaluate text = .error (.tooDeep 256) ∨ ∃ e, t.eval = .error e ∧ evaluate text = .error e := by
  obtain ⟨path, hpath, hlong⟩ := h
  rw [evaluate_eq_evalWithin hlex rfl]
  refine Tree.evalWithin_of_lt_nesting (Nat.lt_of_not_le fun hle => ?_)
  exact Nat.not_le.mpr hlong (Tree.nesting_le_iff.mp hle path hpath)

/-- **Up to 255 enclosures are accepted.**

Where no number, name or empty call of an expression is enclosed by more than 255 parentheses,
signs, calls and exponents, the limit does not show: the outcome is that of evaluating the
expression, and it is not that it goes too deep.  Where one is enclosed by more, there is no value,
and an expression that would have one goes too deep.  So there is none where parentheses, signs and
calls alone are more than 256. -/
theorem evaluate_nesting (hlex : tokens text = .ok t.tokens) :
    ((∀ path ∈ t.enclosures, path.length ≤ 255) →
      evaluate text = t.eval ∧ evaluate text ≠ .error (.tooDeep 256)) ∧
    ((∃ path ∈ t.enclosures, 255 < path.length) →
      (∀ v, evaluate text ≠ .ok v) ∧ ∀ v, t.eval = .ok v → evaluate text = .error (.tooDeep 256)) ∧
    ((∃ path ∈ t.enclosures, 256 < path.countP Enclosure.documented) →
      ∀ v, evaluate text ≠ .ok v) := by
  have hnone : (∃ path ∈ t.enclosures, 255 < path.length) → ∀ v, evaluate text ≠ .ok v := by
    intro hlong v hv
    rcases evaluate_of_lt_length hlex hlong with hdeep | ⟨e, -, herror⟩
    · rw [hdeep] at hv
      cases hv
    · rw [herror] at hv
      cases hv
  refine ⟨fun hshort => ?_, fun hlong => ⟨hnone hlong, fun v hv => ?_⟩, fun hlong => ?_⟩
  · have heval : evaluate text = t.eval := evaluate_eq_eval hlex (Tree.nesting_le_iff.mpr hshort)
    refine ⟨heval, fun hdeep => ?_⟩
    have hvalues := t.failsByValues (.tooDeep 256) (heval.symm.trans hdeep)
    cases hvalues
  · rcases evaluate_of_lt_length hlex hlong with hdeep | ⟨e, herror, -⟩
    · exact hdeep
    · rw [hv] at herror
      cases herror
  · obtain ⟨path, hpath, hcount⟩ := hlong
    have hle : path.countP Enclosure.documented ≤ path.length := List.countP_le_length
    exact hnone ⟨path, hpath, by omega⟩

end Limit

/-! ### Parentheses and exponents around a number -/

/-- A 1 in so many parentheses. -/
def grouped : Nat → Phrase .expr
  | 0 => .operand (.operand (Integer.literal 1))
  | n + 1 => .operand (.operand (.unsigned (.base (.group (grouped n)))))

theorem enclosures_grouped (n : Nat) :
    (grouped n).enclosures = [List.replicate n .parentheses] := by
  induction n with
  | zero => rfl
  | succ n ih =>
      show (grouped n).enclosures.map (.parentheses :: ·) = _
      rw [ih, List.replicate_succ]
      rfl

theorem nesting_grouped (n : Nat) : (grouped n).nesting = n + 1 := by
  induction n with
  | zero => rfl
  | succ n ih => exact congrArg Nat.succ ih

theorem eval_grouped (n : Nat) : (grouped n).eval = .ok (.int 1) := by
  induction n with
  | zero => rfl
  | succ n ih => exact ih

theorem tokens_grouped_succ (n : Nat) :
    (grouped (n + 1)).tokens = .openParen :: ((grouped n).tokens ++ [.closeParen]) := rfl

theorem spells_grouped (n : Nat) {t : Text} {ts : List Token}
    (hnext : ∀ d ∈ t.head?, Token.isNumberChar d = false) (h : Spells t ts) :
    Spells (List.replicate n '(' ++ '1' :: (List.replicate n ')' ++ t))
      ((grouped n).tokens ++ ts) := by
  induction n generalizing t ts with
  | zero => exact Integer.spells_digits 1 hnext h
  | succ n ih =>
      have hclosed : Spells (')' :: t) (.closeParen :: ts) := .symbol rfl h
      have hinner := ih (by rintro d ⟨⟩; rfl) hclosed
      rw [tokens_grouped_succ, List.cons_append, List.append_assoc, List.replicate_succ,
        List.replicate_succ' (a := ')'), List.append_assoc]
      exact .symbol rfl hinner

theorem tokens_grouped (n : Nat) :
    tokens (List.replicate n '(' ++ '1' :: List.replicate n ')') = .ok (grouped n).tokens := by
  have hspells := spells_grouped n (t := []) (by simp) .nil
  rw [List.append_nil, List.append_nil] at hspells
  refine tokens_of_spells_of_fits hspells ?_
  clear hspells
  induction n with
  | zero => exact List.forall_mem_singleton.mpr (show Integer.InRange 1 by decide)
  | succ n ih =>
      have hlast : ∀ token ∈ [Token.closeParen], token.Fits := List.forall_mem_singleton.mpr trivial
      exact List.forall_mem_cons.mpr ⟨trivial, List.forall_mem_append.mpr ⟨ih, hlast⟩⟩

/-- Powers of 1, one in the exponent of the other. -/
def powers : Nat → Phrase .unary
  | 0 => Integer.literal 1
  | n + 1 => .unsigned (.raise (.number (.int 1)) (powers n))

theorem undocumented_powers (n : Nat) :
    ∀ path ∈ (powers n).enclosures, path.countP Enclosure.documented = 0 := by
  induction n with
  | zero => exact List.forall_mem_singleton.mpr rfl
  | succ n ih =>
      intro path hpath
      rcases List.mem_cons.mp hpath with rfl | hpath
      · rfl
      · obtain ⟨inner, hinner, rfl⟩ := List.mem_map.mp hpath
        exact ih inner hinner

theorem nesting_powers (n : Nat) : (powers n).nesting = n + 1 := by
  induction n with
  | zero => rfl
  | succ n ih =>
      show max 0 (powers n).nesting + 1 = _
      rw [ih, Nat.zero_max]

theorem eval_powers (n : Nat) : (powers n).eval = .ok (.int 1) := by
  induction n with
  | zero => rfl
  | succ n ih =>
      show ((powers n).eval >>= fun w => (Value.int 1).pow w) = _
      rw [ih]
      rfl

theorem tokens_powers (n : Nat) :
    tokens ('1' :: (List.replicate n ['^', '1']).flatten) = .ok (powers n).tokens := by
  have hspells : Spells ('1' :: (List.replicate n ['^', '1']).flatten) (powers n).tokens := by
    induction n with
    | zero => exact Integer.spells_digits 1 (by simp) .nil
    | succ n ih =>
        rw [List.replicate_succ, List.flatten_cons]
        exact Integer.spells_digits 1 (by rintro d ⟨⟩; rfl) (.symbol rfl ih)
  refine tokens_of_spells_of_fits hspells ?_
  clear hspells
  induction n with
  | zero => exact List.forall_mem_singleton.mpr (show Integer.InRange 1 by decide)
  | succ n ih =>
      exact List.forall_mem_cons.mpr ⟨show Integer.InRange 1 by decide,
        List.forall_mem_cons.mpr ⟨trivial, ih⟩⟩

/-- In 255 parentheses a number has its value, and in 257 it has none. -/
theorem evaluate_nesting_grouped :
    evaluate (List.replicate 255 '(' ++ '1' :: List.replicate 255 ')') = .ok (.int 1) ∧
      ∀ v, evaluate (List.replicate 257 '(' ++ '1' :: List.replicate 257 ')') ≠ .ok v := by
  constructor
  · have hshort : ∀ path ∈ (grouped 255).enclosures, path.length ≤ 255 := by
      rw [enclosures_grouped]
      exact List.forall_mem_singleton.mpr (Nat.le_of_eq List.length_replicate)
    rw [((evaluate_nesting (tokens_grouped 255)).1 hshort).1]
    exact eval_grouped 255
  · have hlong : ∃ path ∈ (grouped 257).enclosures, 256 < path.countP Enclosure.documented := by
      rw [enclosures_grouped]
      exact ⟨_, List.mem_singleton_self _, by rw [List.countP_replicate]; decide⟩
    exact (evaluate_nesting (tokens_grouped 257)).2.2 hlong

/-- Two expressions are too deep though no number in them is enclosed by more than 256 parentheses,
signs and calls: one in 256 parentheses, and one of 256 powers and nothing else. -/
theorem evaluate_nesting_refused :
    (tokens (List.replicate 256 '(' ++ '1' :: List.replicate 256 ')') = .ok (grouped 256).tokens ∧
      (∀ path ∈ (grouped 256).enclosures, path.countP Enclosure.documented ≤ 256) ∧
      evaluate (List.replicate 256 '(' ++ '1' :: List.replicate 256 ')') =
        .error (.tooDeep 256)) ∧
    (tokens ('1' :: (List.replicate 256 ['^', '1']).flatten) = .ok (powers 256).tokens ∧
      (∀ path ∈ (powers 256).enclosures, path.countP Enclosure.documented = 0) ∧
      evaluate ('1' :: (List.replicate 256 ['^', '1']).flatten) = .error (.tooDeep 256)) := by
  refine ⟨⟨tokens_grouped 256, ?_, ?_⟩, tokens_powers 256, undocumented_powers 256, ?_⟩
  · rw [enclosures_grouped]
    exact List.forall_mem_singleton.mpr (by rw [List.countP_replicate]; decide)
  · have hdeep : ¬ (grouped 256).nesting ≤ 256 := by
      rw [nesting_grouped]
      decide
    rw [evaluate_of_eval_eq_ok (tokens_grouped 256) (eval_grouped 256)]
    exact if_neg hdeep
  · let t : Phrase .expr := .operand (.operand (powers 256))
    have hdeep : ¬ t.nesting ≤ 256 := by
      show ¬ (powers 256).nesting ≤ 256
      rw [nesting_powers]
      decide
    have hlex : tokens ('1' :: (List.replicate 256 ['^', '1']).flatten) = .ok t.tokens :=
      tokens_powers 256
    have heval : t.eval = .ok (.int 1) := eval_powers 256
    rw [evaluate_of_eval_eq_ok hlex heval]
    exact if_neg hdeep

end AliasShell
