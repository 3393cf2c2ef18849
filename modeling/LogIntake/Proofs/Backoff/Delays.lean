import LogIntake.Proofs.Call
import LogIntake.Proofs.Number.Product

/-!
# Delays between calls

`Backoff.nominal` is the delay after each of the failures of a call. All delays but the first one
are at most the bound, and where every delay is to be twice the one before, they are the multiples
of the first one by powers of two, cut to the bound (`toNat_nominal_of_two`): a double holds these
exactly, and a bound that is reached once is kept, even if it has too many bits for a double.

What is waited for a delay lies between its half and the delay (`wait_bounds`), unless the delay
has more than 53 bits. Then it may have been rounded, but a sleep is cut to less than that.
-/

namespace LogIntake.Backoff

open Number
open Float.Model (UnpackedFloat)

variable {b : Backoff} {d : UInt64}

/-- The delay after a failure and `n` others before it. -/
def nominal (b : Backoff) : Nat → UInt64
  | 0 => b.initialDelay
  | n + 1 => b.nextDelay (b.nominal n)

theorem toNat_nominal_le (b : Backoff) (n : Nat) :
    (b.nominal n).toNat ≤ max b.initialDelay.toNat b.maxDelay.toNat := by
  cases n with
  | zero => exact Nat.le_max_left _ _
  | succ n => exact (toNat_nextDelay_le b _).trans (Nat.le_max_right _ _)

/-! ### Doubling -/

theorem unpack_two : two.toFloat.toModel.unpack =
    .finite .positive (2 ^ 52) (1 - 52) (Nat.two_pow_pos 52) := rfl

/-- What is next to a delay that is rounded to a whole number, which may be itself. -/
theorem toNat_nextDelay_of_eq {r m k : Nat} (htwo : b.multiplier = two) (h : IsNormal r m k)
    (hd : Double.ofNat d.toNat = .ofNat r) :
    (b.nextDelay d).toNat = min (2 * r) b.maxDelay.toNat := by
  have hfloor : ⌊(r : ℚ) * 2 ^ (1 : ℤ)⌋₊ = 2 * r := by
    rw [zpow_one, mul_comm]
    exact_mod_cast Nat.floor_natCast (2 * r)
  have hword : word64 = 2 ^ 64 := rfl
  have hmax := b.maxDelay.toNat_lt
  rw [nextDelay, hd, htwo, UInt64.toNat_min,
    h.count_mul_pow (j := 1) unpack_two (by decide) (by decide), hfloor]
  omega

theorem toNat_nextDelay_zero (htwo : b.multiplier = two) : (b.nextDelay 0).toNat = 0 := by
  have hzero : (Double.ofNat 0).toCount = 0 := by decide +kernel
  rw [nextDelay, htwo, UInt64.toNat_zero, Double.ofNat_zero_mul unpack_two, hzero,
    UInt64.toNat_min, UInt64.toNat_zero, Nat.zero_min]

/-- A delay is doubled exactly if it is a number of 53 bits before some zeros. -/
theorem toNat_nextDelay_of_two {a j : Nat} (htwo : b.multiplier = two) (ha : a ≤ 2 ^ 53)
    (hd : d.toNat = a * 2 ^ j) : (b.nextDelay d).toNat = min (2 * d.toNat) b.maxDelay.toNat := by
  rcases Nat.eq_zero_or_pos a with rfl | hpos
  · rw [Nat.zero_mul] at hd
    obtain rfl : d = 0 := UInt64.toNat_inj.mp hd
    rw [toNat_nextDelay_zero htwo, UInt64.toNat_zero, Nat.mul_zero, Nat.zero_min]
  · obtain ⟨m, k, h⟩ := exists_isNormal hpos ha
    rw [hd]
    exact toNat_nextDelay_of_eq htwo (h.mul_two_pow (hd ▸ d.toNat_lt)) (by rw [hd])

/-- Where the bound allows it a delay is not followed by a smaller one. -/
theorem le_toNat_nextDelay (htwo : b.multiplier = two) (d : UInt64) :
    min d.toNat b.maxDelay.toNat ≤ (b.nextDelay d).toNat := by
  rcases Nat.eq_zero_or_pos d.toNat with hzero | hpos
  · rw [hzero, Nat.zero_min]
    exact Nat.zero_le _
  · obtain ⟨r, m, k, h, hround, hlog⟩ := exists_isNormal_ofNat hpos d.toNat_lt
    rw [toNat_nextDelay_of_eq htwo h hround]
    have hupper : d.toNat < 2 ^ (d.toNat.log2 + 1) := Nat.lt_log2_self
    have hlower : 2 ^ r.log2 ≤ r := Nat.log2_self_le (Nat.ne_of_gt h.pos_whole)
    have hpow : 2 ^ d.toNat.log2 ≤ 2 ^ r.log2 :=
      Nat.pow_le_pow_right two_pos (h.log2.symm ▸ hlog)
    rw [Nat.pow_succ] at hupper
    omega

/-- **Doubled delays**: but for the first one, they are the multiples of the first one by powers
of two, cut to the bound. -/
theorem toNat_nominal_of_two (htwo : b.multiplier = two) (hinitial : b.initialDelay.toNat ≤ 2 ^ 53)
    (n : Nat) : (b.nominal (n + 1)).toNat =
      min (b.initialDelay.toNat * 2 ^ (n + 1)) b.maxDelay.toNat := by
  induction n with
  | zero =>
    have hwhole : b.initialDelay.toNat = b.initialDelay.toNat * 2 ^ 0 := (Nat.mul_one _).symm
    rw [nominal, nominal, toNat_nextDelay_of_two htwo hinitial hwhole]
    congr 1
    ring
  | succ n ih =>
    rw [nominal]
    rcases le_or_gt (b.initialDelay.toNat * 2 ^ (n + 1)) b.maxDelay.toNat with hle | hlt
    · rw [Nat.min_eq_left hle] at ih
      rw [toNat_nextDelay_of_two htwo hinitial ih, ih]
      congr 1
      ring
    · -- The bound was reached before.
      rw [Nat.min_eq_right (Nat.le_of_lt hlt)] at ih
      have hlower := le_toNat_nextDelay htwo (b.nominal (n + 1))
      have hupper := toNat_nextDelay_le b (b.nominal (n + 1))
      have hpow : b.initialDelay.toNat * 2 ^ (n + 1) ≤ b.initialDelay.toNat * 2 ^ (n + 1 + 1) :=
        Nat.mul_le_mul_left _ (Nat.pow_le_pow_right two_pos (Nat.le_succ _))
      omega

/-! ### Waits -/

/-- Whether an unpacked number is a half, or at least a hundredth larger and smaller than one. -/
def IsPart : UnpackedFloat → Prop
  | .finite .positive m q _ =>
    q = -53 ∧ 2 ^ 52 ≤ m ∧ m < 2 ^ 53 ∧ (m = 2 ^ 52 ∨ 101 * 2 ^ 52 ≤ 100 * m)
  | _ => False

instance : DecidablePred IsPart := fun x => by
  unfold IsPart
  split <;> infer_instance

theorem isPart_chance : ∀ chance : Fin 50,
    IsPart (Float.ofNat chance / 100 + 0.5).toModel.unpack := by decide +kernel

theorem exists_of_isPart {x : UnpackedFloat} (h : IsPart x) : ∃ m, ∃ hpos : 0 < m,
    x = .finite .positive m (-53) hpos ∧ 2 ^ 52 ≤ m ∧ m < 2 ^ 53 ∧
      (m = 2 ^ 52 ∨ 101 * 2 ^ 52 ≤ 100 * m) := by
  unfold IsPart at h
  split at h
  · obtain ⟨rfl, h⟩ := h
    exact ⟨_, _, rfl, h⟩
  · exact h.elim

theorem wait_of_jitter (h : b.jitter = true) (chance : Fin 50) (d : UInt64) : b.wait chance d =
    (Double.ofFloat ((Double.ofNat d.toNat).toFloat * (Float.ofNat chance / 100 + 0.5))).toCount :=
  if_pos h

theorem wait_of_no_jitter (h : b.jitter = false) (chance : Fin 50) (d : UInt64) :
    b.wait chance d = d :=
  if_neg (by simp [h])

/-- What is waited lies between the half of the delay and the delay. -/
theorem wait_bounds (b : Backoff) (chance : Fin 50) (h : d.toNat ≤ 2 ^ 53) :
    d.toNat / 2 ≤ (b.wait chance d).toNat ∧ (b.wait chance d).toNat ≤ d.toNat := by
  cases hjitter : b.jitter with
  | false =>
    rw [wait_of_no_jitter hjitter]
    exact ⟨Nat.div_le_self _ _, Nat.le_refl _⟩
  | true =>
    obtain ⟨p, hp, hpart, hlower, hupper, hmargin⟩ := exists_of_isPart (isPart_chance chance)
    rw [wait_of_jitter hjitter]
    rcases Nat.eq_zero_or_pos d.toNat with hzero | hpos
    · have hnone : (Double.ofNat 0).toCount = 0 := by decide +kernel
      rw [hzero, Double.ofNat_zero_mul hpart, hnone]
      exact ⟨Nat.le_refl 0, Nat.le_refl 0⟩
    · obtain ⟨m, k, hd⟩ := exists_isNormal hpos h
      exact hd.count_mul_part hpart hlower hupper hmargin

/-- The bits of this delay are too many for a double, which is a little less than it. -/
example : ((⟨1, 0, 0, two, true⟩ : Backoff).wait 0 18014398509481986).toNat <
    18014398509481986 / 2 := by decide +kernel

/-- Where a delay has too many bits, what is waited has not many less. -/
theorem le_wait (b : Backoff) (chance : Fin 50) (h : 2 ^ 53 ≤ d.toNat) :
    2 ^ 52 ≤ (b.wait chance d).toNat := by
  cases hjitter : b.jitter with
  | false =>
    rw [wait_of_no_jitter hjitter]
    omega
  | true =>
    obtain ⟨p, hp, hpart, hlower, hupper, hmargin⟩ := exists_of_isPart (isPart_chance chance)
    have hpos : 0 < d.toNat := Nat.lt_of_lt_of_le (Nat.two_pow_pos 53) h
    obtain ⟨r, m, k, hr, hround, hlog⟩ := exists_isNormal_ofNat hpos d.toNat_lt
    have hbits : 53 ≤ d.toNat.log2 := (Nat.le_log2 (Nat.ne_of_gt hpos)).mpr h
    have hlarge : 2 ^ 53 ≤ r :=
      (Nat.le_log2 (Nat.ne_of_gt hr.pos_whole)).mp (hr.log2 ▸ hbits.trans hlog)
    have hhalf := (hr.count_mul_part hpart hlower hupper hmargin).1
    rw [wait_of_jitter hjitter, hround]
    omega

/-- **How long is slept** for a delay: between the half of it and all of it, each cut to the
longest sleep. -/
theorem sleepFor_wait_bounds (b : Backoff) (chance : Fin 50) (d : UInt64) :
    Time.sleepFor (d.toNat / 2) ≤ Time.sleepFor (b.wait chance d).toNat ∧
      Time.sleepFor (b.wait chance d).toNat ≤ Time.sleepFor d.toNat := by
  simp only [Time.sleepFor, Time.longestSleep]
  rcases le_or_gt d.toNat (2 ^ 53) with hsmall | hlarge
  · have hbounds := wait_bounds b chance hsmall
    omega
  · have hlong := le_wait b chance (Nat.le_of_lt hlarge)
    omega

end LogIntake.Backoff
