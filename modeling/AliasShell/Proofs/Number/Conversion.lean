/-
Integers as binary64 numbers.

A 64-bit integer becomes the binary64 number of its nearest integer of 53 digits, so two of them
compare as their roundings do: `Float.ofInt_le_ofInt_iff`.

A number is computed with in unpacked form, a mantissa of 53 digits and an exponent, and `Shows`
says which integer such a form stands for.  Whatever the way a form is come to, the digits that are
too many leave it bit by bit, with two more bits that keep what has been lost: `Stands` is the
invariant of that, and `Stands.roundedMantissa` says that in the end the two bits are enough to
round as one division would.  `shows_round` is then the one fact about rounding; an integer below
2⁵³ goes through it twice, a greater one once.
-/
import AliasShell.Proofs.Number.Nearest

namespace AliasShell

open Float.Model Float.Model.UnpackedFloat

/-! ### Digits that leave -/

/-- A mantissa with its two bits stands for the fraction `n / d`: the whole part, if what is left is
a half or more, and if it is neither nothing nor a half. -/
structure Stands (em : ExtendedMantissa) (n d : Nat) : Prop where
  whole : em.mantissa = n / d
  half : em.roundBit = true ↔ d ≤ 2 * (n % d)
  more : em.stickyBit = true ↔ n % d ≠ 0 ∧ 2 * (n % d) ≠ d

namespace Stands

variable {em : ExtendedMantissa} {n d : Nat}

theorem exact (n : Nat) : Stands (.ofMantissaAndAccuracy n .exact) n 1 where
  whole := (Nat.div_one n).symm
  half := by simp [ExtendedMantissa.ofMantissaAndAccuracy, Nat.mod_one]
  more := by simp [ExtendedMantissa.ofMantissaAndAccuracy, Nat.mod_one]

theorem shiftRightOne (h : Stands em n d) (hd : 0 < d) : Stands em.shiftRightOne n (d * 2) := by
  have hlt : n % d < d := Nat.mod_lt n hd
  have hwhole : em.shiftRightOne.mantissa = n / (d * 2) := by
    rw [← Nat.div_div_eq_div_mul, ← h.whole]
    rfl
  have hhalf : em.shiftRightOne.roundBit = true ↔ em.mantissa % 2 ≠ 0 := bne_iff_ne
  have hmore : em.shiftRightOne.stickyBit = true ↔ n % d ≠ 0 := by
    refine Bool.or_eq_true_iff.trans ?_
    rw [h.half, h.more]
    omega
  have hrest : n % (d * 2) = n % d + d * (em.mantissa % 2) := by rw [Nat.mod_mul, ← h.whole]
  rcases Nat.mod_two_eq_zero_or_one em.mantissa with hbit | hbit
  · rw [hbit, Nat.mul_zero, Nat.add_zero] at hrest
    rw [hbit] at hhalf
    exact ⟨hwhole, hhalf.trans (by omega), hmore.trans (by omega)⟩
  · rw [hbit, Nat.mul_one] at hrest
    rw [hbit] at hhalf
    exact ⟨hwhole, hhalf.trans (by omega), hmore.trans (by omega)⟩

theorem shiftRight (h : Stands em n d) (hd : 0 < d) (s : Nat) : Stands (em >>> s) n (d * 2 ^ s) := by
  induction s with
  | zero => rwa [pow_zero, Nat.mul_one]
  | succ s ih =>
      rw [pow_succ, ← Nat.mul_assoc]
      exact ih.shiftRightOne (Nat.mul_pos hd (Nat.pow_pos (by decide)))

/-- The two bits are enough to round. -/
theorem roundedMantissa (h : Stands em n d) (hd : 0 < d) :
    em.roundedMantissa = Integer.halfEven n d := by
  obtain ⟨hwhole, hhalf, hmore⟩ := h
  obtain ⟨m, half, more⟩ := em
  simp only at hwhole hhalf hmore
  subst hwhole
  unfold Integer.halfEven
  cases half <;> cases more <;>
    simp only [ExtendedMantissa.roundedMantissa, ExtendedMantissa.accuracy,
      Accuracy.roundToNearestEven, Bool.false_eq_true, true_iff, false_iff] at hhalf hmore ⊢ <;>
    split <;> omega

end Stands

/-! ### Unpacked forms -/

/-- The unpacked form that stands for an integer: zero, or a mantissa of 53 digits and an exponent.
-/
inductive Shows : UnpackedFloat → Int → Prop
  | zero (s : Sign) : Shows (.zero s) 0
  | finite (s : Sign) {m k n : Nat} (hm : 0 < m) (hlog : m.log2 = 52) (hk : k ≤ 64)
      (hvalue : m * 2 ^ k = n * 2 ^ 52) : Shows (.finite s m ((k : Int) - 52) hm) (s.apply n)

theorem log2_mul_two_pow {n : Nat} (h : n ≠ 0) (j : Nat) : (n * 2 ^ j).log2 = n.log2 + j := by
  induction j with
  | zero => rw [pow_zero, Nat.mul_one, Nat.add_zero]
  | succ j ih =>
      have hne : n * 2 ^ j ≠ 0 := Nat.mul_ne_zero h (Nat.ne_of_gt (Nat.pow_pos (by decide)))
      rw [pow_succ, ← Nat.mul_assoc, Nat.mul_comm, Nat.log2_two_mul hne, ih, Nat.add_assoc]

theorem targetExponent_eq (m : Nat) (e : Int) :
    Format.binary64.targetExponent (totalExponent m e) = max (m.log2 + e - 52) (-1074) := by
  have hdigits : (Format.binary64.mantissaBits : Int) = 53 := rfl
  have hleast : Format.binary64.minExponent = -1074 := rfl
  rw [Format.targetExponent, totalExponent, hdigits, hleast]
  omega

/-- The digits that are too many leave at once, and those that stay are to be rounded. -/
theorem exists_shift {m : Nat} {e : Int} (hm : 52 ≤ m.log2) (he : -1022 ≤ m.log2 + e) :
    ∃ em : ExtendedMantissa, em.roundedMantissa = Integer.halfEven m (Integer.unit m) ∧
      shiftToTargetExponent Format.binary64 m e .exact = (em, m.log2 + e - 52) := by
  have htarget : Format.binary64.targetExponent (totalExponent m e) = m.log2 + e - 52 := by
    rw [targetExponent_eq]
    omega
  have hshift : (m.log2 + e - 52 - e).toNat = m.log2 - 52 := by omega
  have hstands : Stands (ExtendedMantissa.ofMantissaAndAccuracy m .exact >>> (m.log2 - 52)) m
      (Integer.unit m) := by
    have := (Stands.exact m).shiftRight Nat.one_pos (m.log2 - 52)
    rwa [Nat.one_mul] at this
  refine ⟨_, hstands.roundedMantissa (Integer.unit_pos m), ?_⟩
  rw [shiftToTargetExponent, htarget, shiftToExponent, hshift]
  exact Prod.ext rfl (by push_cast; omega)

/-- Nothing leaves a mantissa of 53 digits. -/
theorem shift_of_log2 {r k : Nat} (h : r.log2 = 52) :
    shiftToTargetExponent Format.binary64 r ((k : Int) - 52) .exact =
      (⟨r, false, false⟩, (k : Int) - 52) := by
  have htarget : Format.binary64.targetExponent (totalExponent r ((k : Int) - 52)) =
      (k : Int) - 52 := by
    rw [targetExponent_eq, h]
    omega
  rw [shiftToTargetExponent, htarget, shiftToExponent, Int.sub_self]
  exact Prod.ext rfl (Int.add_zero _)

/-- Rounded up to a power of two, a mantissa has a digit too many, which is a zero. -/
theorem shift_of_carry (k : Nat) :
    shiftToTargetExponent Format.binary64 (2 ^ 53) ((k : Int) - 52) .exact =
      (⟨2 ^ 52, false, false⟩, ((k + 1 : Nat) : Int) - 52) := by
  have htarget : Format.binary64.targetExponent (totalExponent (2 ^ 53) ((k : Int) - 52)) =
      (k : Int) - 51 := by
    rw [targetExponent_eq, Nat.log2_two_pow]
    omega
  have hone : ((k : Int) - 51 - ((k : Int) - 52)).toNat = 1 := by omega
  rw [shiftToTargetExponent, htarget, shiftToExponent, hone]
  exact Prod.ext rfl (by push_cast; ring)

/-- Rounding is a shift, and a second one for a digit carried. -/
theorem roundWithAccuracy_eq (s : Sign) {m r m' : Nat} {e e₁ e₂ : Int} {em : ExtendedMantissa}
    (hfirst : shiftToTargetExponent Format.binary64 m e .exact = (em, e₁))
    (hr : em.roundedMantissa = r)
    (hcarry : shiftToTargetExponent Format.binary64 r e₁ .exact = (⟨m', false, false⟩, e₂))
    (hm' : 0 < m') :
    roundWithAccuracy Format.binary64 s m e .exact = .finite s m' e₂ hm' := by
  unfold roundWithAccuracy
  rw [hfirst]
  dsimp only
  rw [hr, hcarry]
  exact dif_neg (Nat.ne_of_gt hm')

/-- **What is rounded shows the nearest integer**, however its value is written: here
`m · 2 ^ e = n`, with `a - b` for `e`. -/
theorem shows_round (s : Sign) {m n a b : Nat} {e : Int} (hm : 52 ≤ m.log2) (hn : n.log2 ≤ 63)
    (he : e = (a : Int) - b) (hvalue : m * 2 ^ a = n * 2 ^ b) :
    Shows (roundWithAccuracy Format.binary64 s m e .exact) (s.apply (Integer.nearest n)) := by
  have hm0 : m ≠ 0 := by
    rintro rfl
    exact absurd hm (by decide)
  have hn0 : n ≠ 0 := by
    rintro rfl
    rw [Nat.zero_mul] at hvalue
    exact absurd hvalue (Nat.mul_ne_zero hm0 (Nat.ne_of_gt (Nat.pow_pos (by decide))))
  have hlog : m.log2 + a = n.log2 + b := by
    rw [← log2_mul_two_pow hm0, hvalue, log2_mul_two_pow hn0]
  obtain ⟨em, hem, hshift⟩ := exists_shift (e := e) hm (by omega)
  have hexponent : (m.log2 : Int) + e - 52 = (n.log2 : Int) - 52 := by omega
  rw [hexponent] at hshift
  -- the rounded digits are those of the nearest integer
  have hnearest :
      Integer.halfEven m (Integer.unit m) * 2 ^ n.log2 = Integer.nearest n * 2 ^ 52 := by
    have hunit : Integer.unit m * 2 ^ a = 2 ^ (n.log2 + b - 52) := by
      rw [Integer.unit, ← pow_add]
      congr 1
      omega
    rw [← Integer.halfEven_first_digits n (b := b) (by omega), ← hvalue, ← hunit,
      Integer.halfEven_mul_mul m _ (Nat.pow_pos (by decide))]
  have hlow := Integer.two_pow_le_halfEven hm
  rcases Nat.lt_or_eq_of_le (Integer.halfEven_le_two_pow hm) with hlt | heq
  · have hdigits := (Nat.log2_eq_iff (by omega)).mpr ⟨hlow, hlt⟩
    rw [roundWithAccuracy_eq s hshift hem (shift_of_log2 hdigits) (by omega)]
    exact .finite s _ hdigits (by omega) hnearest
  · rw [roundWithAccuracy_eq s hshift (hem.trans heq) (shift_of_carry n.log2) (by decide)]
    exact .finite s (k := n.log2 + 1) _ (by decide) (by omega) (by rw [← hnearest, heq]; ring)

/-! ### Packing -/

theorem ofBitVec_unpackSign {spec : Format} (s : Sign) (e : BitVec spec.exponentBits)
    (m : BitVec spec.mantissaBitsWithoutImplicit) :
    Sign.ofBitVec (unpackSign (packComponents spec s e m)) = s := by
  have hbit : unpackSign (packComponents spec s e m) = s.toBitVec := by
    apply BitVec.eq_of_getLsbD_eq
    intro i hi
    obtain rfl : i = 0 := by omega
    unfold unpackSign packComponents
    simp [BitVec.getLsbD_append, BitVec.getElem_append]
  rw [hbit]
  cases s <;> rfl

theorem finite_congr {s s' : Sign} {m m' : Nat} {e e' : Int} {hm : 0 < m} {hm' : 0 < m'}
    (hs : s = s') (hmantissa : m = m') (he : e = e') :
    UnpackedFloat.finite s m e hm = .finite s' m' e' hm' := by
  subst hs hmantissa he
  rfl

namespace Shows

variable {u v : UnpackedFloat} {i j : Int}

theorem neg (h : Shows u i) : Shows u.neg (-i) := by
  cases h with
  | zero s => exact .zero _
  | @finite s m k n hm hlog hk hvalue =>
      have hsign : -s.apply (n : Int) = (-s).apply n := by
        cases s
        · exact Int.neg_neg _
        · rfl
      rw [hsign]
      exact .finite _ hm hlog hk hvalue

/-- Packing loses nothing. -/
theorem unpack_pack (h : Shows u i) : (Float.Model.pack u).unpack = u := by
  cases h with
  | zero s => cases s <;> rfl
  | @finite s m k n hm hlog hk hvalue =>
      have hbias : (Format.binary64.exponentBias : Int) = 1023 := rfl
      have hdigits : (Format.binary64.mantissaBitsWithoutImplicit : Int) = 52 := rfl
      have hbiased : ((k : Int) - 52 + Format.binary64.exponentBias +
          Format.binary64.mantissaBitsWithoutImplicit).toNat = k + 1023 := by
        omega
      have hexponent : (BitVec.ofNat 11 (k + 1023)).toNat = k + 1023 := by
        rw [BitVec.toNat_ofNat, Nat.mod_eq_of_lt (by omega)]
      have hpack : UnpackedFloat.pack Format.binary64 (.finite s m ((k : Int) - 52) hm) =
          packComponents Format.binary64 s (BitVec.ofNat 11 (k + 1023)) (BitVec.ofNat 52 m) := by
        unfold UnpackedFloat.pack
        dsimp only
        rw [hbiased, if_neg (by omega), hlog]
        exact if_pos rfl
      -- the first digit is left out when packing, and put back when unpacking
      have hmantissa : (1#1 ++ BitVec.ofNat 52 m).toNat = m := by
        have hrange := (Nat.log2_eq_iff (Nat.ne_of_gt hm)).mp hlog
        have hrest : m % 2 ^ 52 = m - 2 ^ 52 := by omega
        rw [BitVec.toNat_append, BitVec.toNat_ofNat, BitVec.toNat_ofNat, hrest,
          ← Nat.shiftLeft_add_eq_or_of_lt (by omega), Nat.shiftLeft_eq]
        omega
      have hne (e : BitVec 11) (h : e.toNat ≠ k + 1023) :
          unpackExponent (packComponents Format.binary64 s (BitVec.ofNat 11 (k + 1023))
            (BitVec.ofNat 52 m)) ≠ e := by
        rw [unpackExponent_packComponents]
        rintro rfl
        exact h hexponent
      show UnpackedFloat.unpack Format.binary64 (UnpackedFloat.pack Format.binary64 _) = _
      rw [hpack]
      unfold UnpackedFloat.unpack
      dsimp only
      rw [if_neg (hne (-1#11) (show 2047 ≠ k + 1023 by omega)),
        if_neg (hne 0#11 (show 0 ≠ k + 1023 by omega))]
      refine finite_congr (ofBitVec_unpackSign s _ _) ?_ ?_
      · rw [unpackMantissa_packComponents]
        exact hmantissa
      · rw [unpackExponent_packComponents, hexponent]
        omega

/-- Of two mantissas of 53 digits the one with the greater exponent is greater. -/
theorem lt_of_exponent_lt {m k n m' k' n' : Nat} (hm : m.log2 = 52) (hm' : m'.log2 = 52)
    (h : m * 2 ^ k = n * 2 ^ 52) (h' : m' * 2 ^ k' = n' * 2 ^ 52) (hk : k < k') : n < n' := by
  have hlt : m < 2 ^ 53 := by
    have := Nat.lt_log2_self (n := m)
    rwa [hm] at this
  have hge : 2 ^ 52 ≤ m' := by
    rw [← hm']
    exact Nat.log2_self_le (by rintro rfl; exact absurd hm' (by decide))
  refine Nat.lt_of_mul_lt_mul_right (a := 2 ^ 52) ?_
  rw [← h, ← h']
  calc m * 2 ^ k < 2 ^ 53 * 2 ^ k := Nat.mul_lt_mul_of_pos_right hlt (Nat.pow_pos (by decide))
    _ = 2 ^ 52 * 2 ^ (k + 1) := by ring
    _ ≤ 2 ^ 52 * 2 ^ k' := Nat.mul_le_mul_left _ (Nat.pow_le_pow_right (by decide) hk)
    _ ≤ m' * 2 ^ k' := Nat.mul_le_mul_right _ hge

/-- The exponents decide first, then the mantissas. -/
theorem compare_scaled {m k n m' k' n' : Nat} (hm : m.log2 = 52) (hm' : m'.log2 = 52)
    (h : m * 2 ^ k = n * 2 ^ 52) (h' : m' * 2 ^ k' = n' * 2 ^ 52) :
    (compare ((k : Int) - 52) ((k' : Int) - 52)).then (compare m m') = compare n n' := by
  rcases Nat.lt_trichotomy k k' with hk | rfl | hk
  · have hn := lt_of_exponent_lt hm hm' h h' hk
    rw [Int.compare_eq_lt.mpr (by omega), Nat.compare_eq_lt.mpr hn]
    rfl
  · have hlt : m < m' ↔ n < n' := by
      rw [← Nat.mul_lt_mul_right (Nat.pow_pos (n := k) (show 0 < 2 by decide)), h, h',
        Nat.mul_lt_mul_right (by decide)]
    have hgt : m' < m ↔ n' < n := by
      rw [← Nat.mul_lt_mul_right (Nat.pow_pos (n := k) (show 0 < 2 by decide)), h, h',
        Nat.mul_lt_mul_right (by decide)]
    rw [Int.compare_eq_eq.mpr rfl, Nat.compare_eq_ite_lt, Nat.compare_eq_ite_lt]
    simp only [hlt, hgt]
    rfl
  · have hn := lt_of_exponent_lt hm' hm h' h hk
    rw [Int.compare_eq_gt.mpr (by omega), Nat.compare_eq_gt.mpr hn]
    rfl

/-- Unpacked forms compare as the integers do. -/
theorem le_iff (hu : Shows u i) (hv : Shows v j) : u.le v = true ↔ i ≤ j := by
  have hpos {m k n : Nat} (hm : 0 < m) (hvalue : m * 2 ^ k = n * 2 ^ 52) : 0 < n := by
    refine Nat.pos_of_mul_pos_right (b := 2 ^ 52) ?_
    rw [← hvalue]
    exact Nat.mul_pos hm (Nat.pow_pos (by decide))
  cases hu with
  | zero s =>
      cases hv with
      | zero s' => exact iff_of_true rfl (Int.le_refl 0)
      | @finite s' m k n hm hlog hk hvalue =>
          have hn := hpos hm hvalue
          cases s'
          · exact iff_of_false Bool.false_ne_true (show ¬ (0 : Int) ≤ -n by omega)
          · exact iff_of_true rfl (show (0 : Int) ≤ n by omega)
  | @finite s m k n hm hlog hk hvalue =>
      have hn := hpos hm hvalue
      cases hv with
      | zero s' =>
          cases s
          · exact iff_of_true rfl (show -(n : Int) ≤ 0 by omega)
          · exact iff_of_false Bool.false_ne_true (show ¬ (n : Int) ≤ 0 by omega)
      | @finite s' m' k' n' hm' hlog' hk' hvalue' =>
          have hn' := hpos hm' hvalue'
          have hcompare := compare_scaled hlog hlog' hvalue hvalue'
          cases s <;> cases s'
          · show (Ordering.swap _).isLE = true ↔ -(n : Int) ≤ -n'
            rw [hcompare, Nat.compare_swap, Nat.isLE_compare]
            omega
          · exact iff_of_true rfl (show -(n : Int) ≤ n' by omega)
          · exact iff_of_false Bool.false_ne_true (show ¬ (n : Int) ≤ -n' by omega)
          · show Ordering.isLE _ = true ↔ (n : Int) ≤ n'
            rw [hcompare, Nat.isLE_compare]
            omega

end Shows

/-! ### Conversion -/

theorem Shows.packed {u : UnpackedFloat} {i : Int} (h : Shows u i) :
    Shows (Float.Model.pack u).unpack i := by
  rwa [h.unpack_pack]

/-- Multiplying by one rounds once more, and changes nothing. -/
theorem Shows.mul_one {u : UnpackedFloat} {i : Int} (h : Shows u i) (hi : i.natAbs < 2 ^ 53) :
    Shows (UnpackedFloat.mul Format.binary64 u (.finite .positive (2 ^ 52) (-52) (by decide))) i := by
  cases h with
  | zero s => exact .zero _
  | @finite s m k n hm hlog hk hvalue =>
      have hn : n < 2 ^ 53 := by
        cases s <;> simpa [Sign.apply] using hi
      have hsign : s * Sign.positive = s := by cases s <;> rfl
      have hdigits : (m * 2 ^ 52).log2 = 104 := by
        rw [log2_mul_two_pow (Nat.ne_of_gt hm), hlog]
      have hround := shows_round s (m := m * 2 ^ 52) (n := n) (a := k) (b := 104)
        (e := (k : Int) - 52 + -52) (by omega) ?_ (by push_cast; ring) ?_
      · rw [Integer.nearest_of_lt hn] at hround
        show Shows (roundWithAccuracy Format.binary64 (s * .positive) _ _ .exact) _
        rwa [hsign]
      · by_cases h0 : n = 0
        · rw [h0]
          decide
        · have := (Nat.log2_lt h0).mpr hn
          omega
      · calc m * 2 ^ 52 * 2 ^ k = m * 2 ^ k * 2 ^ 52 := by ring
          _ = n * 2 ^ 104 := by rw [hvalue]; ring

theorem log2_le {n : Nat} (h : n < 2 ^ 64) : n.log2 ≤ 63 := by
  rcases Nat.eq_zero_or_pos n with rfl | hpos
  · decide
  · exact Nat.le_of_lt_succ ((Nat.log2_lt (Nat.ne_of_gt hpos)).mpr h)

/-- A word becomes the nearest binary64 number. -/
theorem shows_ofUInt64 (w : UInt64) :
    Shows (UnpackedFloat.ofUInt64 Format.binary64 w) (Integer.nearest w.toNat) := by
  have hword : w.toNat < 2 ^ 64 := w.toNat_lt
  show Shows (UnpackedFloat.normalize Format.binary64 w.toNat 0 .positive) _
  generalize w.toNat = n at hword ⊢
  rcases Nat.eq_zero_or_pos n with rfl | hpos
  · rw [Integer.nearest_of_lt (by decide)]
    exact .zero _
  · have hshift : (0 - Format.binary64.targetExponent (totalExponent n 0)).toNat = 52 - n.log2 := by
      rw [targetExponent_eq]
      omega
    have hround : UnpackedFloat.normalize Format.binary64 n 0 .positive =
        roundWithAccuracy Format.binary64 .positive (n * 2 ^ (52 - n.log2))
          (0 - ((52 - n.log2 : Nat) : Int)) .exact := by
      unfold UnpackedFloat.normalize
      rw [Int.compare_eq_gt.mpr (by omega)]
      simp only [UnpackedFloat.round, decreaseExponent, hshift, Int.toNat_natCast,
        Nat.shiftLeft_eq]
    rw [hround]
    refine shows_round .positive (a := 0) (b := 52 - n.log2) ?_ (log2_le hword) (by simp) (by simp)
    rw [log2_mul_two_pow (Nat.ne_of_gt hpos)]
    omega

/-- Below 2⁵³ a number is converted as a word and multiplied by one. -/
theorem shows_ofNat_of_lt {n : Nat} (h : n < 2 ^ 53) :
    Shows (Float.ofNat n).toModel.unpack (Integer.nearest n) := by
  have hsize : 0 < Float.exactlyRepresentablePowersOfTen.size := by decide
  have hone : Float.exactlyRepresentablePowersOfTen[0] = 1.0 := rfl
  have hunpack : (1.0 : Float).toModel.unpack = .finite .positive (2 ^ 52) (-52) (by decide) := rfl
  have hword : n.toUInt64.toNat = n := Nat.mod_eq_of_lt (by omega)
  have hofNat : Float.ofNat n =
      n.toUInt64.toFloat * Float.exactlyRepresentablePowersOfTen[0] :=
    dif_pos ⟨h, Nat.zero_le _⟩
  rw [hofNat, hone]
  show Shows (Float.Model.pack (UnpackedFloat.mul Format.binary64
    n.toUInt64.toFloat.toModel.unpack _)).unpack _
  rw [hunpack]
  have hconverted : Shows n.toUInt64.toFloat.toModel.unpack (Integer.nearest n) := by
    have := (shows_ofUInt64 n.toUInt64).packed
    rwa [hword] at this
  refine (hconverted.mul_one ?_).packed
  rwa [Integer.nearest_of_lt h]

/-- A greater one is scaled and rounded. -/
theorem shows_ofNat_of_le {n : Nat} (h : 2 ^ 53 ≤ n) (hlog : n.log2 ≤ 63) :
    Shows (Float.ofNat n).toModel.unpack (Integer.nearest n) := by
  have hofNat : Float.ofNat n = ⟨Float.Model.ofScientific n 0⟩ :=
    dif_neg fun hsmall => absurd hsmall.1 (Nat.not_lt.mpr h)
  have hscaled : UnpackedFloat.ofScientific Format.binary64 n 0 =
      roundWithAccuracy Format.binary64 .positive (n * 2 ^ 53) (-53) .exact := by
    have hbig : ¬ (0 : Int) > 2 ^ Format.binary64.exponentBits := by decide
    have hlow : ¬ (0 : Int) < -((2 ^ Format.binary64.exponentBits : Int) + n.log2) := by
      have : (2 ^ Format.binary64.exponentBits : Int) = 2048 := by decide
      omega
    rw [UnpackedFloat.ofScientific, dif_neg (by omega), if_neg hbig, if_neg hlow,
      if_pos (Int.le_refl 0)]
    show roundWithAccuracy Format.binary64 .positive (n <<< 53 * 1) (-53 + 0) .exact = _
    rw [Nat.shiftLeft_eq, Nat.mul_one, Int.add_zero]
  rw [hofNat]
  show Shows (Float.Model.pack (UnpackedFloat.ofScientific Format.binary64 n 0)).unpack _
  rw [hscaled]
  refine (shows_round .positive (a := 0) (b := 53) ?_ hlog (by simp) (by simp)).packed
  rw [log2_mul_two_pow (by omega)]
  omega

theorem shows_ofNat {n : Nat} (h : n < 2 ^ 64) :
    Shows (Float.ofNat n).toModel.unpack (Integer.nearest n) := by
  rcases Nat.lt_or_ge n (2 ^ 53) with hlt | hge
  · exact shows_ofNat_of_lt hlt
  · exact shows_ofNat_of_le hge (log2_le h)

theorem shows_ofInt {i : Int} (h : Integer.InRange i) :
    Shows (Float.ofInt i).toModel.unpack (Integer.rounded i) := by
  obtain ⟨hleast, hgreatest⟩ := h
  rw [Integer.least] at hleast
  rw [Integer.greatest] at hgreatest
  cases i with
  | ofNat n =>
      rw [Int.ofNat_eq_natCast] at hgreatest
      exact shows_ofNat (by omega)
  | negSucc n =>
      have hneg : Integer.rounded (Int.negSucc n) = -(Integer.nearest (n + 1) : Int) :=
        if_pos (Int.negSucc_lt_zero n)
      rw [hneg]
      exact (shows_ofNat (by omega)).neg.packed

/-- **64-bit integers compare as binary64 numbers as their roundings do.** -/
theorem Float.ofInt_le_ofInt_iff {i j : Int} (hi : Integer.InRange i) (hj : Integer.InRange j) :
    Float.ofInt i ≤ Float.ofInt j ↔ Integer.rounded i ≤ Integer.rounded j := by
  refine Iff.trans ?_ ((shows_ofInt hi).le_iff (shows_ofInt hj))
  exact decide_eq_true_iff

end AliasShell
