import LogIntake.Proofs.Time.Instant
import Mathlib.Order.Bounds.Defs

/-!
# Cutting down to milliseconds

What is left of an instant is the greatest whole millisecond that is not after it (`IsFloor`), where
a leap second counts as the second that follows. So instants in the same millisecond leave the same
(`IsFloor.unique`).

The leap second at the end of the range is the one exception: the second that it counts as is not
supported, so nothing is cut off there (`IsLast`, `truncate_of_isLast`).
-/

namespace LogIntake.Time.Instant

variable {t t' u u' : Instant}

/-- The nanoseconds from 1970 to an instant; a leap second counts as the second that follows. -/
def elapsed (t : Instant) : Int :=
  t.seconds * 1000000000 + t.nanos

theorem elapsed_ediv (t : Instant) : t.elapsed / 1000000 = t.millis := by
  simp only [elapsed, millis]
  omega

/-- The greatest whole millisecond that is not after an instant; it does not lie in a leap
second. -/
structure IsFloor (t u : Instant) : Prop where
  nanos : u.nanos < 1000000000
  whole : u.nanos % 1000000 = 0
  greatest : IsGreatest {n : Int | 1000000 ∣ n ∧ n ≤ t.elapsed} u.elapsed

theorem isFloor_iff : t.IsFloor u ↔
    u.nanos < 1000000000 ∧ u.nanos % 1000000 = 0 ∧ u.millis = t.millis := by
  rw [← elapsed_ediv, ← elapsed_ediv]
  have hdvd : u.nanos % 1000000 = 0 → 1000000 ∣ u.elapsed := by
    intro hwhole
    simp only [elapsed]
    omega
  constructor
  · intro h
    obtain ⟨⟨hwhole, hle⟩, hgreatest⟩ := h.greatest
    have hfloor : t.elapsed / 1000000 * 1000000 ≤ u.elapsed :=
      hgreatest ⟨Int.dvd_mul_left _ _, by omega⟩
    exact ⟨h.nanos, h.whole, by omega⟩
  · rintro ⟨hnanos, hwhole, hmillis⟩
    have hu := hdvd hwhole
    refine ⟨hnanos, hwhole, ⟨hu, by omega⟩, fun n hn => ?_⟩
    obtain ⟨hn, hle⟩ := hn
    omega

/-- Instants in the same millisecond leave the same. -/
theorem IsFloor.unique (h : t.IsFloor u) (h' : t'.IsFloor u') (hmillis : t.millis = t'.millis) :
    u = u' := by
  obtain ⟨seconds, nanos⟩ := u
  obtain ⟨seconds', nanos'⟩ := u'
  obtain ⟨hnanos, hwhole, heq⟩ := isFloor_iff.mp h
  obtain ⟨hnanos', hwhole', heq'⟩ := isFloor_iff.mp h'
  simp only [millis] at *
  rw [mk.injEq]
  omega

/-- An instant in the leap second at the end of the range. -/
def IsLast (t : Instant) : Prop :=
  t.seconds = maxSeconds ∧ 1000000000 ≤ t.nanos

theorem IsLast.not_isFloor (h : t.IsLast) : ¬ t.IsFloor t :=
  fun hfloor => Nat.not_lt.mpr h.2 hfloor.nanos

/-- Cutting down leaves the greatest whole millisecond that is not after a supported instant, but in
the last leap second. -/
theorem isFloor_truncate (h : ofParts? t.seconds t.nanos = some t) (hlast : ¬ t.IsLast) :
    t.IsFloor t.truncate := by
  obtain ⟨hnanos, hlow, hhigh⟩ := ofParts?_eq_some h
  have hrange : minSeconds ≤ t.millis / 1000 ∧ t.millis / 1000 ≤ maxSeconds := by
    simp only [IsLast, millis] at *
    omega
  have hu : ofMillis? t.millis = some t.truncate := by
    have hsome : ofMillis? t.millis = some ⟨t.millis / 1000, (t.millis % 1000).toNat * 1000000⟩ :=
      if_pos hrange
    rw [truncate, hsome, Option.getD_some]
  obtain ⟨hnanos, hwhole, hmillis, -⟩ := ofMillis?_eq_some_iff.mp hu
  exact isFloor_iff.mpr ⟨hnanos, hwhole, hmillis⟩

/-- Nothing is cut off in the last leap second. -/
theorem truncate_of_isLast (h : t.IsLast) : t.truncate = t := by
  obtain ⟨hseconds, hnanos⟩ := h
  have hout : ¬ (minSeconds ≤ t.millis / 1000 ∧ t.millis / 1000 ≤ maxSeconds) := by
    simp only [millis, hseconds]
    omega
  rw [truncate, ofMillis?, ofSeconds?, if_neg hout, Option.getD_none]

end LogIntake.Time.Instant
