/-
The nearest number of 53 binary digits.

An integer that becomes a binary64 number keeps its first 53 binary digits.  What is behind them
decides which way it is rounded: to the nearer of two neighbours, and half way between them to the
one whose last digit is even.  `Integer.rounded` does that on integers, so that the outcome can be
compared with the integer itself.

The two facts that are used of it are that it keeps the order, `rounded_mono`, and that it leaves
alone what has no more than 53 digits, `rounded_of_le`.  Integers of as many digits are rounded to
multiples of the same unit, where the order is that of the quotients, `halfEven_mono`; and no
rounding goes past the power of two that a longer integer begins with.
-/
import AliasShell.Number.Integer
import Mathlib.Algebra.Order.Ring.Nat
import Mathlib.Tactic.Ring

namespace AliasShell

namespace Integer

/-! ### Quotients to the nearest whole number -/

/-- `n / d` to the nearest whole number, and half way between two to the even one. -/
def halfEven (n d : Nat) : Nat :=
  if 2 * (n % d) < d ∨ 2 * (n % d) = d ∧ n / d % 2 = 0 then n / d else n / d + 1

theorem div_le_halfEven (n d : Nat) : n / d ≤ halfEven n d := by
  unfold halfEven
  split <;> omega

theorem halfEven_le_succ (n d : Nat) : halfEven n d ≤ n / d + 1 := by
  unfold halfEven
  split <;> omega

theorem halfEven_mono {a b : Nat} (h : a ≤ b) (d : Nat) : halfEven a d ≤ halfEven b d := by
  rcases Nat.lt_or_eq_of_le (Nat.div_le_div_right (c := d) h) with hlt | heq
  · calc halfEven a d ≤ a / d + 1 := halfEven_le_succ a d
      _ ≤ b / d := hlt
      _ ≤ halfEven b d := div_le_halfEven b d
  · -- the quotients are equal, and so the remainders are ordered
    have hrest : a % d ≤ b % d := by
      have ha := Nat.div_add_mod a d
      have hb := Nat.div_add_mod b d
      rw [heq] at ha
      omega
    unfold halfEven
    rw [heq]
    split <;> split <;> omega

/-- A multiple is not rounded. -/
theorem halfEven_mul (q : Nat) {d : Nat} (hd : 0 < d) : halfEven (q * d) d = q := by
  rw [halfEven, Nat.mul_mod_left, Nat.mul_div_left q hd, if_pos (Or.inl (by omega))]

/-- Only the fraction counts, not its terms. -/
theorem halfEven_mul_mul (n d : Nat) {c : Nat} (hc : 0 < c) :
    halfEven (n * c) (d * c) = halfEven n d := by
  have hmod : n * c % (d * c) = n % d * c := Nat.mul_mod_mul_right c n d
  have hdiv : n * c / (d * c) = n / d := Nat.mul_div_mul_right n d hc
  have hlt : 2 * (n % d * c) < d * c ↔ 2 * (n % d) < d := by
    rw [← Nat.mul_assoc]
    exact Nat.mul_lt_mul_right hc
  have heq : 2 * (n % d * c) = d * c ↔ 2 * (n % d) = d := by
    rw [← Nat.mul_assoc]
    exact Nat.mul_left_inj (Nat.ne_of_gt hc)
  rw [halfEven, hmod, hdiv]
  simp only [hlt, heq]
  rfl

/-! ### Numbers without a sign -/

/-- What the 53rd binary digit of a number stands for. -/
def unit (n : Nat) : Nat := 2 ^ (n.log2 - 52)

/-- The nearest number of 53 binary digits. -/
def nearest (n : Nat) : Nat := halfEven n (unit n) * unit n

theorem unit_pos (n : Nat) : 0 < unit n := Nat.pow_pos (by decide)

theorem unit_mul_two_pow {n : Nat} (h : 52 ≤ n.log2) : unit n * 2 ^ 52 = 2 ^ n.log2 := by
  rw [unit, ← pow_add]
  congr 1
  omega

theorem unit_of_lt {n : Nat} (h : n < 2 ^ 53) : unit n = 1 := by
  have hlog : n.log2 ≤ 52 := by
    rcases Nat.eq_zero_or_pos n with rfl | hpos
    · decide
    · exact Nat.le_of_lt_succ ((Nat.log2_lt (Nat.ne_of_gt hpos)).mpr h)
  rw [unit, Nat.sub_eq_zero_of_le hlog, pow_zero]

theorem nearest_of_lt {n : Nat} (h : n < 2 ^ 53) : nearest n = n := by
  have hone : halfEven n 1 = n := by
    have := halfEven_mul n (d := 1) Nat.one_pos
    rwa [Nat.mul_one] at this
  rw [nearest, unit_of_lt h, hone, Nat.mul_one]

/-- The first 53 digits of a number, rounded, are those of the nearest one, and it does not matter
how many zeros stand behind the number. -/
theorem halfEven_first_digits (n : Nat) {b : Nat} (hb : 52 ≤ n.log2 + b) :
    halfEven (n * 2 ^ b) (2 ^ (n.log2 + b - 52)) * 2 ^ n.log2 = nearest n * 2 ^ 52 := by
  rcases Nat.lt_or_ge n.log2 52 with hshort | hlong
  · -- a short number is followed by zeros only
    have hzeros : n * 2 ^ b = n * 2 ^ (52 - n.log2) * 2 ^ (n.log2 + b - 52) := by
      rw [Nat.mul_assoc, ← pow_add]
      congr 2
      omega
    have hlt : n < 2 ^ 53 :=
      Nat.lt_of_lt_of_le Nat.lt_log2_self (Nat.pow_le_pow_right (by decide) (by omega))
    rw [hzeros, halfEven_mul _ (Nat.pow_pos (by decide)), nearest_of_lt hlt, Nat.mul_assoc,
      ← pow_add]
    congr 2
    omega
  · have hunit : 2 ^ (n.log2 + b - 52) = unit n * 2 ^ b := by
      rw [unit, ← pow_add]
      congr 1
      omega
    rw [hunit, halfEven_mul_mul _ _ (Nat.pow_pos (by decide)), nearest, ← unit_mul_two_pow hlong,
      Nat.mul_assoc]

/-- A power of two that is not beyond the first digit is a multiple of the unit. -/
theorem exists_mul_unit (n : Nat) {k : Nat} (h : n.log2 ≤ k) : ∃ q, 2 ^ k = q * unit n :=
  ⟨2 ^ (k - (n.log2 - 52)), by rw [unit, ← pow_add]; congr 1; omega⟩

/-- Rounding does not go below the power of two that a number begins with. -/
theorem pow_le_nearest {n : Nat} (h : n ≠ 0) : 2 ^ n.log2 ≤ nearest n := by
  obtain ⟨q, hq⟩ := exists_mul_unit n (Nat.le_refl _)
  have hle : q ≤ halfEven n (unit n) := by
    rw [← halfEven_mul q (unit_pos n), ← hq]
    exact halfEven_mono (Nat.log2_self_le h) _
  rw [hq]
  exact Nat.mul_le_mul_right _ hle

/-- Nor beyond the next one. -/
theorem nearest_le_pow (n : Nat) : nearest n ≤ 2 ^ (n.log2 + 1) := by
  obtain ⟨q, hq⟩ := exists_mul_unit n (Nat.le_succ _)
  have hle : halfEven n (unit n) ≤ q := by
    rw [← halfEven_mul q (unit_pos n), ← hq]
    exact halfEven_mono (Nat.le_of_lt Nat.lt_log2_self) _
  rw [hq]
  exact Nat.mul_le_mul_right _ hle

/-- The rounded digits are not fewer than 53. -/
theorem two_pow_le_halfEven {n : Nat} (h : 52 ≤ n.log2) : 2 ^ 52 ≤ halfEven n (unit n) := by
  have hn : n ≠ 0 := by
    rintro rfl
    exact absurd h (by decide)
  refine Nat.le_of_mul_le_mul_right ?_ (unit_pos n)
  calc 2 ^ 52 * unit n = 2 ^ n.log2 := by rw [Nat.mul_comm, unit_mul_two_pow h]
    _ ≤ halfEven n (unit n) * unit n := pow_le_nearest hn

/-- Nor more, but for the power of two that is rounded up to. -/
theorem halfEven_le_two_pow {n : Nat} (h : 52 ≤ n.log2) : halfEven n (unit n) ≤ 2 ^ 53 := by
  refine Nat.le_of_mul_le_mul_right ?_ (unit_pos n)
  calc halfEven n (unit n) * unit n ≤ 2 ^ (n.log2 + 1) := nearest_le_pow n
    _ = 2 ^ 53 * unit n := by rw [pow_succ, ← unit_mul_two_pow h]; ring

theorem nearest_mono {a b : Nat} (h : a ≤ b) : nearest a ≤ nearest b := by
  rcases Nat.eq_zero_or_pos a with rfl | ha
  · rw [nearest_of_lt (by decide)]
    exact Nat.zero_le _
  have hb : b ≠ 0 := by omega
  have hlog : a.log2 ≤ b.log2 := by
    rw [Nat.le_log2 hb]
    exact Nat.le_trans (Nat.log2_self_le (Nat.ne_of_gt ha)) h
  rcases Nat.lt_or_eq_of_le hlog with hlt | heq
  · calc nearest a ≤ 2 ^ (a.log2 + 1) := nearest_le_pow a
      _ ≤ 2 ^ b.log2 := Nat.pow_le_pow_right (by decide) hlt
      _ ≤ nearest b := pow_le_nearest hb
  · have hunit : unit a = unit b := by rw [unit, heq, unit]
    rw [nearest, hunit]
    exact Nat.mul_le_mul_right _ (halfEven_mono h _)

/-! ### Integers -/

/-- The nearest integer of 53 binary digits. -/
def rounded (i : Int) : Int := if i < 0 then -(nearest i.natAbs : Int) else nearest i.natAbs

/-- Rounding keeps the order. -/
theorem rounded_mono {a b : Int} (h : a ≤ b) : rounded a ≤ rounded b := by
  unfold rounded
  split
  · split
    · have := nearest_mono (show b.natAbs ≤ a.natAbs by omega)
      omega
    · omega
  · rw [if_neg (by omega)]
    have := nearest_mono (show a.natAbs ≤ b.natAbs by omega)
    omega

/-- Up to the first integer of 54 digits, nothing is rounded. -/
theorem rounded_of_le {i : Int} (h : i.natAbs ≤ 2 ^ 53) : rounded i = i := by
  have hnearest : nearest i.natAbs = i.natAbs := by
    rcases Nat.lt_or_eq_of_le h with hlt | heq
    · exact nearest_of_lt hlt
    · rw [heq]
      decide
  rw [rounded, hnearest]
  split <;> omega

end Integer

end AliasShell
