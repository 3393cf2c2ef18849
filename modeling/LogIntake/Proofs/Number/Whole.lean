import LogIntake.Number.Double
import Mathlib

/-!
# Whole numbers in double precision

A whole number `n` that is `m · 2 ^ (k - 52)` with a significand `m` of 53 bits (`IsNormal`) is a
double, and every `n` up to `2 ^ 53` is such a number. The bits of this double, what they are
unpacked to by double-precision arithmetic and what they are packed from are read off `m` and `k`.
Larger numbers of 64 bits are rounded to such a number (`exists_isNormal_ofNat`).

Two numbers are added on a common exponent. No bit is lost by it, and where the sum is at most
`2 ^ 53` again, rounding it to 53 bits loses none either, so the sum is exact
(`Double.ofNat_add_ofNat`).
-/

namespace LogIntake.Number

open Float.Model (UnpackedFloat totalExponent)
open Float.Model.UnpackedFloat

variable {n m k : Nat}

/-- How a whole number is written with a significand of 53 bits. -/
structure IsNormal (n m k : Nat) : Prop where
  lower : 2 ^ 52 ≤ m
  upper : m < 2 ^ 53
  place : k ≤ 64
  eq : n * 2 ^ 52 = m * 2 ^ k

theorem mul_two_pow_sub {a b i j : Nat} (h : a * 2 ^ i = b * 2 ^ j) :
    a * 2 ^ (i - j) = b * 2 ^ (j - i) := by
  rcases Nat.le_total i j with hle | hle
  · obtain ⟨t, rfl⟩ := Nat.exists_eq_add_of_le hle
    have hcancel : a * 2 ^ i = b * 2 ^ t * 2 ^ i := by
      rw [h, Nat.mul_assoc, ← Nat.pow_add, Nat.add_comm]
    rw [Nat.sub_eq_zero_of_le hle, Nat.add_sub_cancel_left, Nat.pow_zero, Nat.mul_one]
    exact Nat.eq_of_mul_eq_mul_right (Nat.two_pow_pos i) hcancel
  · obtain ⟨t, rfl⟩ := Nat.exists_eq_add_of_le hle
    have hcancel : a * 2 ^ t * 2 ^ j = b * 2 ^ j := by
      rw [← h, Nat.mul_assoc, ← Nat.pow_add, Nat.add_comm]
    rw [Nat.sub_eq_zero_of_le hle, Nat.add_sub_cancel_left, Nat.pow_zero, Nat.mul_one]
    exact Nat.eq_of_mul_eq_mul_right (Nat.two_pow_pos j) hcancel

theorem log2_mul_two_pow {a : Nat} (hpos : 0 < a) (i : Nat) :
    (a * 2 ^ i).log2 = a.log2 + i := by
  induction i with
  | zero => rw [Nat.pow_zero, Nat.mul_one, Nat.add_zero]
  | succ i ih =>
    have hne : a * 2 ^ i ≠ 0 := Nat.ne_of_gt (Nat.mul_pos hpos (Nat.two_pow_pos i))
    rw [Nat.pow_succ, ← Nat.mul_assoc, Nat.mul_comm, Nat.log2_two_mul hne, ih, Nat.add_assoc]

theorem log2_significand (hlower : 2 ^ 52 ≤ m) (hupper : m < 2 ^ 53) : m.log2 = 52 :=
  (Nat.log2_eq_iff (by omega)).mpr ⟨hlower, hupper⟩

theorem exists_isNormal (hpos : 0 < n) (hle : n ≤ 2 ^ 53) : ∃ m k, IsNormal n m k := by
  rcases Nat.lt_or_eq_of_le hle with hlt | rfl
  · have hlog : n.log2 ≤ 52 := Nat.le_of_lt_succ ((Nat.log2_lt (Nat.ne_of_gt hpos)).mpr hlt)
    have hlower : 2 ^ n.log2 ≤ n := Nat.log2_self_le (Nat.ne_of_gt hpos)
    have hupper : n < 2 ^ (n.log2 + 1) := Nat.lt_log2_self
    refine ⟨n * 2 ^ (52 - n.log2), n.log2, ?_, ?_, by omega, ?_⟩
    · calc 2 ^ 52 = 2 ^ n.log2 * 2 ^ (52 - n.log2) := by rw [← Nat.pow_add]; congr 1; omega
        _ ≤ n * 2 ^ (52 - n.log2) := Nat.mul_le_mul_right _ hlower
    · calc n * 2 ^ (52 - n.log2) < 2 ^ (n.log2 + 1) * 2 ^ (52 - n.log2) :=
            Nat.mul_lt_mul_of_pos_right hupper (Nat.two_pow_pos _)
        _ = 2 ^ 53 := by rw [← Nat.pow_add]; congr 1; omega
    · rw [Nat.mul_assoc, ← Nat.pow_add]
      congr 2
      omega
  · exact ⟨2 ^ 52, 53, by decide, by decide, by decide, by decide⟩

namespace IsNormal

theorem pos (h : IsNormal n m k) : 0 < m :=
  Nat.lt_of_lt_of_le (Nat.two_pow_pos 52) h.lower

theorem pos_whole (h : IsNormal n m k) : 0 < n := by
  have hpos : 0 < n * 2 ^ 52 := h.eq ▸ Nat.mul_pos h.pos (Nat.two_pow_pos k)
  exact Nat.pos_of_mul_pos_right hpos

theorem log2 (h : IsNormal n m k) : n.log2 = k := by
  have hlog := congrArg Nat.log2 h.eq
  rw [log2_mul_two_pow h.pos_whole, log2_mul_two_pow h.pos,
    log2_significand h.lower h.upper] at hlog
  omega

end IsNormal

/-! ### Bits -/

theorem roundDiv_exact {num den : Nat} {q : Int} (hden : 0 < den)
    (h : num * 2 ^ (-q).toNat = m * (den * 2 ^ q.toNat)) : Format.roundDiv num den q = m := by
  have hpos : 0 < den * 2 ^ q.toNat := Nat.mul_pos hden (Nat.two_pow_pos _)
  simp only [Format.roundDiv, Format.scaledDiv, Nat.pow_eq, h, Nat.mul_mod_left,
    Nat.mul_div_cancel _ hpos, Nat.mul_zero]
  exact if_pos (.inl hpos)

/-- Rounding goes to one of the neighbours. -/
theorem roundDiv_eq_or (num den : Nat) (q : Int) :
    Format.roundDiv num den q = (Format.scaledDiv num den q).1 ∨
      Format.roundDiv num den q = (Format.scaledDiv num den q).1 + 1 := by
  simp only [Format.roundDiv]
  split
  · exact .inl rfl
  · exact .inr rfl

theorem two_pow_mul_sub (i j : Nat) : 2 ^ i * 2 ^ (j - i) = 2 ^ j * 2 ^ (i - j) :=
  mul_two_pow_sub (Nat.mul_comm _ _)

/-- On the exponent on which it has 53 bits, a number is not less than `2 ^ 52`, nor as large as
`2 ^ 53`. -/
theorem scaledDiv_log2 (hpos : 0 < n) :
    2 ^ 52 ≤ (Format.scaledDiv n 1 ((n.log2 : Int) - 52)).1 ∧
      (Format.scaledDiv n 1 ((n.log2 : Int) - 52)).1 < 2 ^ 53 := by
  have hleft : (-((n.log2 : Int) - 52)).toNat = 52 - n.log2 := by omega
  have hright : ((n.log2 : Int) - 52).toNat = n.log2 - 52 := by omega
  have hlower : 2 ^ n.log2 ≤ n := Nat.log2_self_le (Nat.ne_of_gt hpos)
  have hupper : n < 2 ^ n.log2 * 2 := (Nat.lt_log2_self).trans_eq (Nat.pow_succ _ _)
  simp only [Format.scaledDiv, Nat.pow_eq, hleft, hright, Nat.one_mul]
  rw [Nat.le_div_iff_mul_le (Nat.two_pow_pos _), Nat.div_lt_iff_lt_mul (Nat.two_pow_pos _),
    two_pow_mul_sub]
  refine ⟨Nat.mul_le_mul_right _ hlower, ?_⟩
  calc n * 2 ^ (52 - n.log2)
      < 2 ^ n.log2 * 2 * 2 ^ (52 - n.log2) :=
        Nat.mul_lt_mul_of_pos_right hupper (Nat.two_pow_pos _)
    _ = 2 * (2 ^ 52 * 2 ^ (n.log2 - 52)) := by rw [two_pow_mul_sub]; ring
    _ = 2 ^ 53 * 2 ^ (n.log2 - 52) := by ring

/-- The bits nearest to a number. -/
theorem ofRatio_eq (hpos : 0 < n) (hlog : n.log2 ≤ 64) : Format.binary64.ofRatio n 1 =
    (n.log2 + 1022) * 2 ^ 52 + Format.roundDiv n 1 ((n.log2 : Int) - 52) := by
  have hmin : Format.binary64.minExponent = -1074 := by decide
  have hinfinity : Format.binary64.infinity = 2047 * 2 ^ 52 := by decide
  have hguess : max (-1074) ((n.log2 : Int) - ((1 : Nat).log2 : Int) - 52 - 1) = n.log2 - 53 := by
    have hone : (1 : Nat).log2 = 0 := by decide
    omega
  -- With the exponent that is guessed first, the significand would have 54 bits.
  have hwide : ¬ (Format.scaledDiv n 1 ((n.log2 : Int) - 53)).1 < 2 ^ 53 := by
    have hleft : (-((n.log2 : Int) - 53)).toNat = 53 - n.log2 := by omega
    have hright : ((n.log2 : Int) - 53).toNat = n.log2 - 53 := by omega
    simp only [Format.scaledDiv, Nat.pow_eq, hleft, hright, Nat.one_mul]
    rw [Nat.not_lt, Nat.le_div_iff_mul_le (Nat.two_pow_pos _), two_pow_mul_sub]
    exact Nat.mul_le_mul_right _ (Nat.log2_self_le (Nat.ne_of_gt hpos))
  have hbits : Format.binary64.fractionBits = 52 := rfl
  have hnext : (n.log2 : Int) - 53 + 1 = n.log2 - 52 := by omega
  have hexponent : ((n.log2 : Int) - 52 - -1074).toNat = n.log2 + 1022 := by omega
  simp only [Format.ofRatio, if_neg (Nat.ne_of_gt hpos), hmin, hbits, Int.cast_ofNat_Int, hguess,
    Nat.pow_eq, Nat.reduceAdd, if_neg hwide, hnext, hexponent, hinfinity]
  have hupper := (scaledDiv_log2 hpos).2
  have hround := roundDiv_eq_or n 1 ((n.log2 : Int) - 52)
  exact Nat.min_eq_right (by omega)

theorem IsNormal.ofRatio (h : IsNormal n m k) :
    Format.binary64.ofRatio n 1 = (k + 1022) * 2 ^ 52 + m := by
  have hround : Format.roundDiv n 1 ((k : Int) - 52) = m := by
    refine roundDiv_exact Nat.one_pos ?_
    have hscaled := mul_two_pow_sub h.eq
    have hleft : (-((k : Int) - 52)).toNat = 52 - k := by omega
    have hright : ((k : Int) - 52).toNat = k - 52 := by omega
    rw [hleft, hright, hscaled, Nat.one_mul]
  have hplace := h.place
  rw [ofRatio_eq h.pos_whole (by rw [h.log2]; exact hplace), h.log2, hround]

/-- A number of 64 bits is rounded to a number that is not below its leading bit. -/
theorem exists_isNormal_ofNat (hpos : 0 < n) (hlt : n < 2 ^ 64) :
    ∃ r m k, IsNormal r m k ∧ Double.ofNat n = .ofNat r ∧ n.log2 ≤ k := by
  have hlog : n.log2 < 64 := (Nat.log2_lt (Nat.ne_of_gt hpos)).mpr hlt
  obtain ⟨hlower, hupper⟩ := scaledDiv_log2 hpos
  have hround := roundDiv_eq_or n 1 ((n.log2 : Int) - 52)
  have hbits := ofRatio_eq hpos (Nat.le_of_lt hlog)
  generalize (Format.scaledDiv n 1 ((n.log2 : Int) - 52)).1 = a at hlower hupper hround
  generalize Format.roundDiv n 1 ((n.log2 : Int) - 52) = m at hround hbits
  rcases Nat.lt_or_ge n (2 ^ 53) with hsmall | hlarge
  · obtain ⟨m, k, h⟩ := exists_isNormal hpos (Nat.le_of_lt hsmall)
    exact ⟨n, m, k, h, rfl, h.log2.le⟩
  · have hlarge : 53 ≤ n.log2 := (Nat.le_log2 (Nat.ne_of_gt hpos)).mpr hlarge
    by_cases hcarry : m < 2 ^ 53
    · have h : IsNormal (m * 2 ^ (n.log2 - 52)) m n.log2 := by
        refine ⟨by omega, hcarry, by omega, ?_⟩
        rw [Nat.mul_assoc, ← Nat.pow_add, Nat.sub_add_cancel (by omega)]
      exact ⟨_, m, n.log2, h, by rw [Double.ofNat, Double.ofNat, hbits, h.ofRatio], Nat.le_refl _⟩
    · -- The significand is carried over to the next exponent.
      have h : IsNormal (2 ^ (n.log2 + 1)) (2 ^ 52) (n.log2 + 1) :=
        ⟨Nat.le_refl _, by decide, by omega, Nat.mul_comm _ _⟩
      refine ⟨_, _, _, h, ?_, Nat.le_succ _⟩
      have hsame : (n.log2 + 1022) * 2 ^ 52 + m = (n.log2 + 1 + 1022) * 2 ^ 52 + 2 ^ 52 := by omega
      rw [Double.ofNat, Double.ofNat, hbits, h.ofRatio, hsame]

/-- The bits of a whole number. -/
theorem IsNormal.toNat_bits (h : IsNormal n m k) :
    (Double.ofNat n).bits.toNat = (k + 1022) * 2 ^ 52 + m := by
  have hupper := h.upper
  have hplace := h.place
  rw [Double.ofNat, h.ofRatio, UInt64.toNat_ofNat']
  omega

/-! ### Packing and unpacking -/

/-- A significand with an exponent, packed into the bits of a double. -/
theorem pack_eq {q : Int} (hlower : 2 ^ 52 ≤ m) (hupper : m < 2 ^ 53) (hq : -1074 ≤ q)
    (hq' : q ≤ 971) (hpos : 0 < m) :
    pack Float.Model.Format.binary64 (.finite .positive m q hpos) =
      packComponents Float.Model.Format.binary64 .positive (.ofNat _ (q + 1075).toNat)
        (.ofNat _ m) := by
  have hbias : (q + Float.Model.Format.binary64.exponentBias +
      Float.Model.Format.binary64.mantissaBitsWithoutImplicit).toNat = (q + 1075).toNat := by
    change (q + 1023 + 52).toNat = _
    omega
  have hfinite : ¬ 2 ^ 11 ≤ (q + 1075).toNat + 1 := by omega
  rw [pack, hbias, log2_significand hlower hupper]
  exact (if_neg hfinite).trans (if_pos rfl)

/-- The leading bit, which is not packed, is there again after unpacking. -/
theorem toNat_one_append (hlower : 2 ^ 52 ≤ m) (hupper : m < 2 ^ 53) :
    (1#1 ++ BitVec.ofNat 52 m).toNat = m := by
  have hlt : m % 2 ^ 52 < 2 ^ 52 := Nat.mod_lt _ (Nat.two_pow_pos 52)
  rw [BitVec.toNat_append, BitVec.toNat_ofNat, BitVec.toNat_ofNat,
    ← Nat.shiftLeft_add_eq_or_of_lt hlt, Nat.shiftLeft_eq]
  omega

/-- What is packed is unpacked to the same. -/
theorem unpack_pack {q : Int} (hlower : 2 ^ 52 ≤ m) (hupper : m < 2 ^ 53) (hq : -1074 ≤ q)
    (hq' : q ≤ 971) (hpos : 0 < m) :
    unpack Float.Model.Format.binary64
        (pack Float.Model.Format.binary64 (.finite .positive m q hpos)) =
      .finite .positive m q hpos := by
  have hexponent : (BitVec.ofNat 11 (q + 1075).toNat).toNat = (q + 1075).toNat := by
    rw [BitVec.toNat_ofNat]
    omega
  have hfinite : BitVec.ofNat 11 (q + 1075).toNat ≠ -1#11 := by
    intro heq
    have hall : (q + 1075).toNat = 2047 := hexponent.symm.trans (congrArg BitVec.toNat heq)
    omega
  have hnormal : BitVec.ofNat 11 (q + 1075).toNat ≠ 0#11 := by
    intro heq
    have hnone : (q + 1075).toNat = 0 := hexponent.symm.trans (congrArg BitVec.toNat heq)
    omega
  have hbias : ((q + 1075).toNat : Int) - ((1023 : Nat) + (52 : Nat)) = q := by omega
  rw [pack_eq hlower hupper hq hq', unpack]
  simp only [unpackMantissa_packComponents, unpackExponent_packComponents]
  have hexponent' : ((q + 1075).toNat : Int) -
      ((Float.Model.Format.binary64.exponentBias : Int) + (52 : Nat)) = q := hbias
  simp only [if_neg hfinite, if_neg hnormal, unpackSign_packComponents, Sign.ofBitVec_toBitVec,
    hexponent, hexponent', toNat_one_append hlower hupper]

theorem toNat_packComponents {e : Nat} (he : e < 2 ^ 11) (m : Nat) :
    (packComponents Float.Model.Format.binary64 .positive (.ofNat _ e) (.ofNat _ m)).toNat =
      e * 2 ^ 52 + m % 2 ^ 52 := by
  have hlt : m % 2 ^ 52 < 2 ^ 52 := Nat.mod_lt _ (Nat.two_pow_pos 52)
  change (0#1 ++ BitVec.ofNat 11 e ++ BitVec.ofNat 52 m).toNat = _
  simp only [BitVec.toNat_append, BitVec.toNat_ofNat, Nat.zero_mod, Nat.zero_shiftLeft,
    Nat.zero_or, Nat.mod_eq_of_lt he]
  rw [← Nat.shiftLeft_add_eq_or_of_lt hlt, Nat.shiftLeft_eq]

namespace IsNormal

/-- A whole number has the bits that arithmetic packs its significand and exponent into. -/
theorem bits (h : IsNormal n m k) : (Double.ofNat n).bits =
    (Float.Model.pack (.finite .positive m ((k : Int) - 52) h.pos)).toBits := by
  have hlower := h.lower
  have hupper := h.upper
  have hplace := h.place
  have hexponent : ((k : Int) - 52 + 1075).toNat = k + 1023 := by omega
  have hsplit : (k + 1023) * 2 ^ 52 + m % 2 ^ 52 = (k + 1022) * 2 ^ 52 + m := by omega
  refine UInt64.toNat_inj.mp ?_
  change _ = (pack Float.Model.Format.binary64
    (.finite .positive m ((k : Int) - 52) h.pos)).toNat
  rw [pack_eq hlower hupper (by omega) (by omega), hexponent, toNat_packComponents (by omega),
    hsplit, h.toNat_bits]

/-- What arithmetic unpacks a whole number to. -/
theorem unpack (h : IsNormal n m k) : (Double.ofNat n).toFloat.toModel.unpack =
    .finite .positive m ((k : Int) - 52) h.pos := by
  have hplace := h.place
  have hpacked := unpack_pack h.lower h.upper (q := (k : Int) - 52) (by omega) (by omega) h.pos
  rw [Double.toFloat, h.bits]
  change UnpackedFloat.unpack _ (pack _ (UnpackedFloat.unpack _ (pack _ _))) = _
  rw [hpacked, hpacked]

end IsNormal

/-! ### Rounding -/

theorem shiftRight_exact (m i : Nat) :
    (⟨m * 2 ^ i, false, false⟩ : ExtendedMantissa) >>> i = ⟨m, false, false⟩ := by
  change Nat.repeat ExtendedMantissa.shiftRightOne i _ = _
  induction i generalizing m with
  | zero => rw [Nat.pow_zero, Nat.mul_one]; rfl
  | succ i ih =>
    have hpow : m * 2 ^ (i + 1) = m * 2 * 2 ^ i := by
      rw [Nat.pow_succ, Nat.mul_comm _ 2, ← Nat.mul_assoc]
    rw [Nat.repeat, hpow, ih]
    simp [ExtendedMantissa.shiftRightOne]

theorem targetExponent_eq {a : Nat} {e q : Int} (hlog : (a.log2 : Int) + e = 52 + q)
    (hq : -1074 ≤ q) :
    Float.Model.Format.binary64.targetExponent (totalExponent a e) = q := by
  change max ((a.log2 : Int) + 1 + e - 53) (3 - 1024 - 53) = q
  omega

section

variable {q : Int} (hlower : 2 ^ 52 ≤ m) (hupper : m < 2 ^ 53) (hq : -1074 ≤ q) (hpos : 0 < m)
include hlower hupper hq hpos

/-- Zeros behind the significand are dropped. -/
theorem shiftToTargetExponent_exact (i : Nat) :
    shiftToTargetExponent Float.Model.Format.binary64 (m * 2 ^ i) (q - i) .exact =
      (⟨m, false, false⟩, q) := by
  have hlog := log2_mul_two_pow hpos i
  rw [log2_significand hlower hupper] at hlog
  have htarget : Float.Model.Format.binary64.targetExponent
      (totalExponent (m * 2 ^ i) (q - i)) = q := targetExponent_eq (by omega) hq
  have hshift : (q - (q - (i : Int))).toNat = i := by omega
  have hexponent : q - (i : Int) + i = q := by omega
  simp only [shiftToTargetExponent, shiftToExponent, htarget, hshift, hexponent,
    ExtendedMantissa.ofMantissaAndAccuracy, shiftRight_exact]

theorem roundWithAccuracy_exact (i : Nat) :
    roundWithAccuracy Float.Model.Format.binary64 .positive (m * 2 ^ i) (q - i) .exact =
      .finite .positive m q hpos := by
  have hfirst := shiftToTargetExponent_exact hlower hupper hq hpos i
  have hsecond := shiftToTargetExponent_exact hlower hupper hq hpos 0
  rw [Nat.pow_zero, Nat.mul_one, Int.natCast_zero, Int.sub_zero] at hsecond
  have hrounded : (⟨m, false, false⟩ : ExtendedMantissa).roundedMantissa = m := rfl
  simp only [roundWithAccuracy, hfirst, hrounded, hsecond]
  exact dif_neg (Nat.ne_of_gt hpos)

/-- What fits in a significand of 53 bits is rounded to itself. -/
theorem round_exact {a : Nat} {e : Int} (h : a * 2 ^ (e - q).toNat = m * 2 ^ (q - e).toNat) :
    UnpackedFloat.round Float.Model.Format.binary64 .positive a e =
      .finite .positive m q hpos := by
  have hfull : 0 < m * 2 ^ (q - e).toNat := Nat.mul_pos hpos (Nat.two_pow_pos _)
  have hlog := congrArg Nat.log2 h
  rw [log2_mul_two_pow (Nat.pos_of_mul_pos_right (h ▸ hfull)), log2_mul_two_pow hpos,
    log2_significand hlower hupper] at hlog
  have htarget : Float.Model.Format.binary64.targetExponent (totalExponent a e) = q :=
    targetExponent_eq (by omega) hq
  have hexponent : e - ((e - q).toNat : Int) = q - ((q - e).toNat : Int) := by omega
  simp only [UnpackedFloat.round, decreaseExponent, htarget, Nat.shiftLeft_eq, h, hexponent,
    roundWithAccuracy_exact hlower hupper hq hpos]

end

/-! ### Sums -/

theorem mul_two_pow_sub_mul {i j : Nat} (h : j ≤ i) (m : Nat) :
    m * 2 ^ (i - j) * 2 ^ j = m * 2 ^ i := by
  rw [Nat.mul_assoc, ← Nat.pow_add, Nat.sub_add_cancel h]

/-- What arithmetic does to two whole numbers whose sum is not too large. -/
theorem IsNormal.add {a b m₁ k₁ m₂ k₂ : Nat} (h₁ : IsNormal a m₁ k₁) (h₂ : IsNormal b m₂ k₂)
    (h : IsNormal (a + b) m k) :
    UnpackedFloat.add Float.Model.Format.binary64
        (.finite .positive m₁ ((k₁ : Int) - 52) h₁.pos)
        (.finite .positive m₂ ((k₂ : Int) - 52) h₂.pos) =
      .finite .positive m ((k : Int) - 52) h.pos := by
  obtain ⟨j, hj⟩ : ∃ j, j = min k₁ k₂ := ⟨_, rfl⟩
  have hmin : min ((k₁ : Int) - 52) ((k₂ : Int) - 52) = (j : Int) - 52 := by omega
  have hshift₁ : (((k₁ : Int) - 52) - ((j : Int) - 52)).toNat = k₁ - j := by omega
  have hshift₂ : (((k₂ : Int) - 52) - ((j : Int) - 52)).toNat = k₂ - j := by omega
  -- On the common exponent the significands stand for the numbers themselves.
  have hsum : (m₁ * 2 ^ (k₁ - j) + m₂ * 2 ^ (k₂ - j)) * 2 ^ j = m * 2 ^ k := by
    calc (m₁ * 2 ^ (k₁ - j) + m₂ * 2 ^ (k₂ - j)) * 2 ^ j
        = m₁ * 2 ^ k₁ + m₂ * 2 ^ k₂ := by
          rw [Nat.add_mul, mul_two_pow_sub_mul (by omega), mul_two_pow_sub_mul (by omega)]
      _ = (a + b) * 2 ^ 52 := by rw [← h₁.eq, ← h₂.eq, Nat.add_mul]
      _ = m * 2 ^ k := h.eq
  have hscaled := mul_two_pow_sub hsum
  have hleft : (((j : Int) - 52) - ((k : Int) - 52)).toNat = j - k := by omega
  have hright : (((k : Int) - 52) - ((j : Int) - 52)).toNat = k - j := by omega
  have hpos : 0 < m₁ * 2 ^ (k₁ - j) := Nat.mul_pos h₁.pos (Nat.two_pow_pos _)
  have hcompare : compare (((m₁ * 2 ^ (k₁ - j) : Nat) : Int) + ((m₂ * 2 ^ (k₂ - j) : Nat) : Int))
      0 = .gt := Int.compare_eq_gt.mpr (by omega)
  have hplace := h.place
  simp only [UnpackedFloat.add, decreaseExponent, hmin, hshift₁, hshift₂, Nat.shiftLeft_eq,
    Sign.apply, UnpackedFloat.normalize, hcompare]
  refine round_exact h.lower h.upper (by omega) h.pos ?_
  rw [hleft, hright, ← hscaled]
  rfl

theorem Double.ofFloat_add (x y : Float) : Double.ofFloat (x + y) =
    ⟨(Float.Model.pack (UnpackedFloat.add Float.Model.Format.binary64 x.toModel.unpack
      y.toModel.unpack)).toBits⟩ := rfl

theorem unpack_zero : (Double.ofNat 0).toFloat.toModel.unpack = .zero .positive := rfl

/-- **Sums of whole numbers are exact** in double precision, up to `2 ^ 53`. -/
theorem Double.ofNat_add_ofNat {a b : Nat} (h : a + b ≤ 2 ^ 53) :
    Double.ofFloat ((Double.ofNat a).toFloat + (Double.ofNat b).toFloat) = .ofNat (a + b) := by
  rw [ofFloat_add]
  rcases Nat.eq_zero_or_pos a with rfl | ha
  · rcases Nat.eq_zero_or_pos b with rfl | hb
    · rfl
    · obtain ⟨m, k, hb⟩ := exists_isNormal hb (by omega)
      rw [unpack_zero, hb.unpack, Nat.zero_add]
      exact congrArg Double.mk hb.bits.symm
  · obtain ⟨m₁, k₁, ha'⟩ := exists_isNormal ha (by omega)
    rcases Nat.eq_zero_or_pos b with rfl | hb
    · rw [unpack_zero, ha'.unpack, Nat.add_zero]
      exact congrArg Double.mk ha'.bits.symm
    · obtain ⟨m₂, k₂, hb'⟩ := exists_isNormal hb (by omega)
      obtain ⟨m, k, hsum⟩ := exists_isNormal (Nat.add_pos_left ha b) h
      rw [ha'.unpack, hb'.unpack, ha'.add hb' hsum]
      exact congrArg Double.mk hsum.bits.symm

/-- Whether a double stands for a whole number. -/
def Double.Holds (x : Double) (n : Nat) : Prop :=
  x.isNegative = false ∧ ∃ m q, x.magnitude = .finite m q ∧
    m * 2 ^ q.toNat = n * 2 ^ (-q).toNat

/-- Bits are taken apart into the significand and the exponent that they are made of. -/
theorem decode_eq {e : Nat} (hlower : 2 ^ 52 ≤ m) (hupper : m < 2 ^ 53) (he : e < 2046) :
    Format.binary64.decode (e * 2 ^ 52 + m) = .finite m ((e : Int) - 1074) := by
  have hinfinity : Format.binary64.infinity = 2047 * 2 ^ 52 := by decide
  have hmin : Format.binary64.minExponent = -1074 := by decide
  have hbits : Format.binary64.fractionBits = 52 := rfl
  have hdiv : (e * 2 ^ 52 + m) / 2 ^ 52 = e + 1 := by omega
  have hmod : 2 ^ 52 + (e * 2 ^ 52 + m) % 2 ^ 52 = m := by omega
  have hexponent : (-1074 : Int) + (e : Int) = (e : Int) - 1074 := by omega
  simp only [Format.decode, hinfinity, hmin, hbits, Nat.pow_eq, hdiv, hmod, hexponent]
  rw [if_neg (by omega), if_neg (by omega)]

theorem IsNormal.decode (h : IsNormal n m k) :
    Format.binary64.decode ((k + 1022) * 2 ^ 52 + m) = .finite m ((k : Int) - 52) := by
  have hplace := h.place
  have hexponent : ((k + 1022 : Nat) : Int) - 1074 = (k : Int) - 52 := by omega
  rw [decode_eq h.lower h.upper (by omega), hexponent]

/-- A whole number up to `2 ^ 53` is held as it is. -/
theorem Double.holds_ofNat (h : n ≤ 2 ^ 53) : (Double.ofNat n).Holds n := by
  rcases Nat.eq_zero_or_pos n with rfl | hpos
  · exact ⟨by decide, 0, -1074, by decide, by rw [Nat.zero_mul, Nat.zero_mul]⟩
  · obtain ⟨m, k, hn⟩ := exists_isNormal hpos h
    have hplace := hn.place
    have hupper := hn.upper
    have hsign : Format.binary64.signBit = 2 ^ 63 := by decide
    have hlt : (k + 1022) * 2 ^ 52 + m < 2 ^ 63 := by omega
    refine ⟨?_, m, (k : Int) - 52, ?_, ?_⟩
    · rw [isNegative, hn.toNat_bits, hsign]
      exact decide_eq_false (Nat.not_le.mpr hlt)
    · rw [magnitude, hn.toNat_bits, hsign, Nat.mod_eq_of_lt hlt, hn.decode]
    · have hleft : ((k : Int) - 52).toNat = k - 52 := by omega
      have hright : (-((k : Int) - 52)).toNat = 52 - k := by omega
      rw [hleft, hright]
      exact (mul_two_pow_sub hn.eq).symm

end LogIntake.Number
