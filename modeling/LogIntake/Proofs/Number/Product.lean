import LogIntake.Proofs.Number.Whole

/-!
# Products in double precision

The significand of a product has up to 106 bits. Those below the leading 53 are dropped, and the
rest is rounded to one of its neighbours (`exists_round`). So the product of a whole number and a
power of two is exact (`IsNormal.count_mul_pow`), and the product of a whole number and a number
from a half up to one lies, cut down to an integer, between the half of the whole number and the
number itself (`IsNormal.count_mul_part`).
-/

namespace LogIntake.Number

open Float.Model (UnpackedFloat)
open Float.Model.UnpackedFloat

variable {n m k : Nat}

/-! ### Values -/

theorem floor_mul_zpow (m : Nat) (q : Int) :
    m * 2 ^ q.toNat / 2 ^ (-q).toNat = ⌊(m : ℚ) * 2 ^ q⌋₊ := by
  have hq : q = q.toNat - (-q).toNat := by omega
  have hvalue : (m : ℚ) * 2 ^ q = ((m * 2 ^ q.toNat : ℕ) : ℚ) / ((2 ^ (-q).toNat : ℕ) : ℚ) := by
    conv_lhs => rw [hq, zpow_sub₀ two_ne_zero, zpow_natCast, zpow_natCast]
    push_cast
    ring
  rw [hvalue, Nat.floor_div_eq_div]

/-- A whole number is the value of its significand and exponent. -/
theorem IsNormal.value (h : IsNormal n m k) : (m : ℚ) * 2 ^ ((k : ℤ) - 52) = n := by
  have heq : (n : ℚ) * 2 ^ 52 = m * 2 ^ k := by exact_mod_cast h.eq
  rw [zpow_sub₀ two_ne_zero, zpow_natCast, ← mul_div_assoc, ← heq]
  norm_num

theorem IsNormal.mul_two_pow (h : IsNormal n m k) {j : Nat} (hlt : n * 2 ^ j < 2 ^ 64) :
    IsNormal (n * 2 ^ j) m (k + j) := by
  have hpos : n * 2 ^ j ≠ 0 := Nat.ne_of_gt (Nat.mul_pos h.pos_whole (Nat.two_pow_pos j))
  have hlog := (Nat.log2_lt hpos).mpr hlt
  rw [log2_mul_two_pow h.pos_whole, h.log2] at hlog
  refine ⟨h.lower, h.upper, Nat.le_of_lt hlog, ?_⟩
  rw [Nat.mul_right_comm, h.eq, Nat.mul_assoc, ← Nat.pow_add]

/-- The integer part of a double that was packed from a significand and an exponent. -/
theorem toCount_pack {q : Int} (hlower : 2 ^ 52 ≤ m) (hupper : m < 2 ^ 53) (hq : -1074 ≤ q)
    (hq' : q ≤ 971) (hpos : 0 < m) :
    (⟨(Float.Model.pack (.finite .positive m q hpos)).toBits⟩ : Double).toCount =
      UInt64.ofNat (min (word64 - 1) ⌊(m : ℚ) * 2 ^ q⌋₊) := by
  obtain ⟨x, hx⟩ : ∃ x : Double, x = ⟨(Float.Model.pack (.finite .positive m q hpos)).toBits⟩ :=
    ⟨_, rfl⟩
  have hsplit : (q + 1075).toNat * 2 ^ 52 + m % 2 ^ 52 = (q + 1074).toNat * 2 ^ 52 + m := by omega
  have hbits : x.bits.toNat = (q + 1074).toNat * 2 ^ 52 + m := by
    rw [hx]
    change (pack Float.Model.Format.binary64 (.finite .positive m q hpos)).toNat = _
    rw [pack_eq hlower hupper hq hq', toNat_packComponents (by omega), hsplit]
  have hsign : Format.binary64.signBit = 2 ^ 63 := by decide
  have hlt : (q + 1074).toNat * 2 ^ 52 + m < 2 ^ 63 := by omega
  have hnegative : x.isNegative = false := by
    rw [Double.isNegative, hbits, hsign]
    exact decide_eq_false (Nat.not_le.mpr hlt)
  have hexponent : ((q + 1074).toNat : Int) - 1074 = q := by omega
  have hmagnitude : x.magnitude = .finite m q := by
    rw [Double.magnitude, hbits, hsign, Nat.mod_eq_of_lt hlt,
      decode_eq hlower hupper (by omega), hexponent]
  rw [← hx, Double.toCount, hmagnitude]
  simp only [hnegative, Nat.pow_eq, floor_mul_zpow]
  rfl

/-! ### Rounding -/

theorem mantissa_shiftRight (em : ExtendedMantissa) (i : Nat) :
    (em >>> i).mantissa = em.mantissa / 2 ^ i := by
  change (Nat.repeat ExtendedMantissa.shiftRightOne i em).mantissa = _
  induction i with
  | zero => rw [Nat.pow_zero, Nat.div_one]; rfl
  | succ i ih => rw [Nat.repeat, ExtendedMantissa.shiftRightOne, ih, Nat.div_div_eq_div_mul,
      ← Nat.pow_succ]

theorem roundedMantissa_eq_or (em : ExtendedMantissa) :
    em.roundedMantissa = em.mantissa ∨ em.roundedMantissa = em.mantissa + 1 := by
  obtain ⟨a, round, sticky⟩ := em
  cases round <;> cases sticky
  · exact .inl rfl
  · exact .inl rfl
  · exact (Nat.mod_two_eq_zero_or_one a).imp (congrArg (a + ·)) (congrArg (a + ·))
  · exact .inr rfl

/-- Of a number with `s` bits more than there is room for, these are dropped, and what is left is
rounded to a neighbour. -/
theorem exists_round {a s : Nat} {e : Int} (hlower : 2 ^ (52 + s) ≤ a) (hupper : a < 2 ^ (53 + s))
    (he : -1074 ≤ e + s) : ∃ r m q, ∃ hpos : 0 < m,
      roundWithAccuracy Float.Model.Format.binary64 .positive a e .exact =
        .finite .positive m q hpos ∧
      (r = a / 2 ^ s ∨ r = a / 2 ^ s + 1) ∧ 2 ^ 52 ≤ m ∧ m < 2 ^ 53 ∧
      (q = e + s ∨ q = e + s + 1) ∧ (m : ℚ) * 2 ^ q = r * 2 ^ (e + s) := by
  have hpow : 0 < a := Nat.lt_of_lt_of_le (Nat.two_pow_pos _) hlower
  have hlog : a.log2 = 52 + s :=
    (Nat.log2_eq_iff (Nat.ne_of_gt hpow)).mpr ⟨hlower, hupper.trans_eq (by ring)⟩
  have htarget : Float.Model.Format.binary64.targetExponent
      (Float.Model.totalExponent a e) = e + s := targetExponent_eq (by omega) he
  have hshift : (e + (s : Int) - e).toNat = s := by omega
  obtain ⟨em, hem⟩ : ∃ em, em = (⟨a, false, false⟩ : ExtendedMantissa) >>> s := ⟨_, rfl⟩
  have hfirst : shiftToTargetExponent Float.Model.Format.binary64 a e .exact = (em, e + s) := by
    simp only [shiftToTargetExponent, shiftToExponent, htarget, hshift,
      ExtendedMantissa.ofMantissaAndAccuracy, hem]
  have hmantissa : em.mantissa = a / 2 ^ s := by rw [hem, mantissa_shiftRight]
  have hround := roundedMantissa_eq_or em
  rw [hmantissa] at hround
  have hge : 2 ^ 52 ≤ a / 2 ^ s := by
    rw [Nat.le_div_iff_mul_le (Nat.two_pow_pos s), ← Nat.pow_add]
    exact hlower
  have hlt : a / 2 ^ s < 2 ^ 53 := by
    rw [Nat.div_lt_iff_lt_mul (Nat.two_pow_pos s), ← Nat.pow_add]
    exact hupper
  refine ⟨em.roundedMantissa, ?_⟩
  -- What is rounded is shifted once more, since it may have got one bit longer.
  by_cases hcarry : em.roundedMantissa < 2 ^ 53
  · have hsecond := shiftToTargetExponent_exact (m := em.roundedMantissa) (q := e + s)
      (by omega) hcarry he (by omega) 0
    rw [Nat.pow_zero, Nat.mul_one, Int.natCast_zero, Int.sub_zero] at hsecond
    have hpos : 0 < em.roundedMantissa := by omega
    have hrounded : (⟨em.roundedMantissa, false, false⟩ : ExtendedMantissa).roundedMantissa =
      em.roundedMantissa := rfl
    refine ⟨em.roundedMantissa, e + s, hpos, ?_, hround, by omega, hcarry, .inl rfl, rfl⟩
    simp only [roundWithAccuracy, hfirst, hsecond]
    exact dif_neg (Nat.ne_of_gt hpos)
  · have hfull : em.roundedMantissa = 2 ^ 52 * 2 ^ 1 := by omega
    have hsecond := shiftToTargetExponent_exact (m := 2 ^ 52) (q := e + s + 1)
      (Nat.le_refl _) (by decide) (by omega) (Nat.two_pow_pos 52) 1
    have hexponent : e + (s : Int) + 1 - (1 : Nat) = e + s := by omega
    rw [← hfull, hexponent] at hsecond
    refine ⟨2 ^ 52, e + s + 1, Nat.two_pow_pos 52, ?_, hround, Nat.le_refl _, by decide, .inr rfl,
      ?_⟩
    · simp only [roundWithAccuracy, hfirst, hsecond]
      exact dif_neg (Nat.ne_of_gt (Nat.two_pow_pos 52))
    · rw [hfull, zpow_add_one₀ two_ne_zero]
      push_cast
      ring

/-! ### Products -/

theorem Double.ofFloat_mul (x y : Float) : Double.ofFloat (x * y) =
    ⟨(Float.Model.pack (UnpackedFloat.mul Float.Model.Format.binary64 x.toModel.unpack
      y.toModel.unpack)).toBits⟩ := rfl

theorem Double.ofNat_zero_mul {y : Float} {m : Nat} {q : Int} {hpos : 0 < m}
    (hy : y.toModel.unpack = .finite .positive m q hpos) :
    Double.ofFloat ((Double.ofNat 0).toFloat * y) = .ofNat 0 := by
  rw [ofFloat_mul, unpack_zero, hy]
  rfl

theorem toNat_ofNat_min (v : Nat) : (UInt64.ofNat (min (word64 - 1) v)).toNat =
    min (word64 - 1) v := by
  have hword : word64 = 2 ^ 64 := rfl
  rw [UInt64.toNat_ofNat']
  omega

namespace IsNormal

variable {y : Float}

/-- The product with a power of two is exact. -/
theorem count_mul_pow (h : IsNormal n m k) {j : Int} {hpos : 0 < 2 ^ 52}
    (hy : y.toModel.unpack = .finite .positive (2 ^ 52) (j - 52) hpos)
    (hj : -52 ≤ j) (hj' : j ≤ 52) :
    (Double.ofFloat ((Double.ofNat n).toFloat * y)).toCount.toNat =
      min (word64 - 1) ⌊(n : ℚ) * 2 ^ j⌋₊ := by
  have hplace := h.place
  have hproduct : UnpackedFloat.mul Float.Model.Format.binary64
      (.finite .positive m ((k : Int) - 52) h.pos) (.finite .positive (2 ^ 52) (j - 52) hpos) =
        .finite .positive m ((k : Int) - 52 + j) h.pos := by
    have hexponent : (k : Int) - 52 + (j - 52) = (k : Int) - 52 + j - (52 : Nat) := by omega
    have hround := roundWithAccuracy_exact h.lower h.upper (q := (k : Int) - 52 + j) (by omega)
      h.pos 52
    rw [← hexponent] at hround
    exact hround
  rw [Double.ofFloat_mul, h.unpack, hy, hproduct,
    toCount_pack h.lower h.upper (by omega) (by omega), toNat_ofNat_min, zpow_add₀ two_ne_zero,
    ← mul_assoc, h.value]

/-- The bounds of a product before its value is taken: `p` stands for a half or for a number that
is larger by a hundredth of it at least, and smaller than one. -/
theorem exists_round_mul (h : IsNormal n m k) {p : Nat} (hlower : 2 ^ 52 ≤ p) (hupper : p < 2 ^ 53)
    (hp : p = 2 ^ 52 ∨ 101 * 2 ^ 52 ≤ 100 * p) : ∃ s, (s = 52 ∨ s = 53) ∧
      2 ^ (52 + s) ≤ m * p ∧ m * p < 2 ^ (53 + s) ∧
      ∀ r, (r = m * p / 2 ^ s ∨ r = m * p / 2 ^ s + 1) →
        m * 2 ^ 52 ≤ r * 2 ^ s ∧ r * 2 ^ s ≤ m * 2 ^ 53 := by
  have hm := h.lower
  have hm' := h.upper
  have hleast : m * 2 ^ 52 ≤ m * p := Nat.mul_le_mul_left m hlower
  have hgreatest : m * p + m ≤ m * 2 ^ 53 := Nat.mul_le_mul_left m hupper
  rcases Nat.lt_or_ge (m * p) (2 ^ 105) with hshort | hlong
  · exact ⟨52, .inl rfl, by omega, by omega, fun r hr => by omega⟩
  · refine ⟨53, .inr rfl, by omega, by omega, fun r hr => ?_⟩
    rcases hp with rfl | hp
    · omega
    · have hmargin : m * (101 * 2 ^ 52) ≤ m * (100 * p) := Nat.mul_le_mul_left m hp
      have hswap : m * (100 * p) = 100 * (m * p) := Nat.mul_left_comm m 100 p
      omega

/-- The product with a number from a half up to one lies between the half and the whole. -/
theorem count_mul_part (h : IsNormal n m k) {p : Nat} {hpos : 0 < p}
    (hy : y.toModel.unpack = .finite .positive p (-53) hpos) (hlower : 2 ^ 52 ≤ p)
    (hupper : p < 2 ^ 53) (hp : p = 2 ^ 52 ∨ 101 * 2 ^ 52 ≤ 100 * p) :
    n / 2 ≤ (Double.ofFloat ((Double.ofNat n).toFloat * y)).toCount.toNat ∧
      (Double.ofFloat ((Double.ofNat n).toFloat * y)).toCount.toNat ≤ n := by
  have hplace := h.place
  obtain ⟨s, hs, hleast, hgreatest, hbounds⟩ := h.exists_round_mul hlower hupper hp
  obtain ⟨r, a, q, ha, hround, hr, ha₁, ha₂, hq, hvalue⟩ :=
    exists_round (e := (k : Int) - 52 + -53) hleast hgreatest (by omega)
  obtain ⟨hdown, hup⟩ := hbounds r hr
  have hproduct : UnpackedFloat.mul Float.Model.Format.binary64
      (.finite .positive m ((k : Int) - 52) h.pos) (.finite .positive p (-53) hpos) =
        .finite .positive a q ha := hround
  have hscale : (0 : ℚ) < 2 ^ ((k : Int) - 52 + -53) := zpow_pos two_pos _
  have hwhole : (n : ℚ) = m * 2 ^ 53 * 2 ^ ((k : Int) - 52 + -53) := by
    rw [← h.value, zpow_add₀ two_ne_zero]
    norm_num
    ring
  have hfirst : (n : ℚ) / 2 ≤ a * 2 ^ q := by
    have hcast : (m : ℚ) * 2 ^ 52 ≤ r * 2 ^ s := by exact_mod_cast hdown
    rw [hvalue, hwhole, zpow_add₀ two_ne_zero _ (s : Int), zpow_natCast]
    nlinarith
  have hsecond : (a : ℚ) * 2 ^ q ≤ n := by
    have hcast : (r : ℚ) * 2 ^ s ≤ m * 2 ^ 53 := by exact_mod_cast hup
    rw [hvalue, hwhole, zpow_add₀ two_ne_zero _ (s : Int), zpow_natCast]
    nlinarith
  have hhalf : n / 2 ≤ word64 - 1 := by
    have hword : word64 = 2 ^ 64 := rfl
    have hpow : m * 2 ^ k ≤ m * 2 ^ 64 :=
      Nat.mul_le_mul_left m (Nat.pow_le_pow_right two_pos hplace)
    have heq := h.eq
    have hm := h.upper
    omega
  rw [Double.ofFloat_mul, h.unpack, hy, hproduct, toCount_pack ha₁ ha₂ (by omega) (by omega),
    toNat_ofNat_min]
  constructor
  · exact Nat.le_min.mpr ⟨hhalf, Nat.le_floor (Nat.cast_div_le.trans hfirst)⟩
  · exact (Nat.min_le_right _ _).trans (Nat.floor_le_of_le hsecond)

end IsNormal

end LogIntake.Number
