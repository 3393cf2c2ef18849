import LogIntake.Proofs.Time.Calendar
import LogIntake.Time.Instant

/-!
# What clocks show

Every instant is shown by clocks in UTC as a date and time that names it (`ofCivil?_toCivil`): in a
year of either sign, before 1970 and after it, and also in a leap second, which is shown as the
second 60 of its minute.

An instant is a **whole millisecond** if it is the instant of a count of milliseconds. A count has
no way to say that a second is a leap second, so no instant in one is a whole millisecond.
-/

namespace LogIntake.Time.Instant

variable {t : Instant}

/-! ### Dates and times -/

/-- An instant in the supported range, whose nanoseconds are those of a second or of a leap
second. -/
theorem ofParts?_eq_some (h : ofParts? t.seconds t.nanos = some t) :
    (t.nanos < 1000000000 ∨ (t.nanos < 2000000000 ∧ t.seconds % 60 = 59)) ∧
      minSeconds ≤ t.seconds ∧ t.seconds ≤ maxSeconds := by
  simp only [ofParts?, ofSeconds?, Option.ite_none_right_eq_some] at h
  exact ⟨h.1, h.2.1⟩

/-- Hours, minutes and seconds make up the time of day. -/
theorem hours_add_minutes_add_seconds (s : Nat) :
    s / 3600 * 3600 + s / 60 % 60 * 60 + s % 60 = s := by
  have hhours := Nat.div_div_eq_div_mul s 60 60
  omega

/-- The time of day that clocks show: it is one of the day, and it says how far into the day and
into the second the instant is. -/
theorem toCivil_spec (h : ofParts? t.seconds t.nanos = some t) :
    let c := t.toCivil
    c.hour < 24 ∧ c.minute < 60 ∧ c.second ≤ 60 ∧
      c.date.dayNumber * 86400 + (c.hour * 3600 + c.minute * 60 + min c.second 59 : Nat) =
        t.seconds ∧
      (if c.second = 60 then 1000000000 + c.nanos else c.nanos) = t.nanos := by
  obtain ⟨hnanos, -, -⟩ := ofParts?_eq_some h
  obtain ⟨s, hs⟩ : ∃ s : Nat, t.seconds % 86400 = s := Int.eq_ofNat_of_zero_le (by omega)
  have hsum := hours_add_minutes_add_seconds s
  simp only [toCivil, Date.dayNumber_ofDayNumber, hs, Int.toNat_natCast]
  refine ⟨by omega, by omega, ?_⟩
  -- the second that is shown is the last one of a minute or, in a leap second, the one after it
  by_cases hleap : 1000000000 ≤ t.nanos
  · have hlast : s % 60 = 59 := by omega
    simp only [hleap, if_true, hlast]
    omega
  · have hlast : s % 60 ≠ 60 := by omega
    simp only [hleap, hlast, if_false, and_true]
    omega

/-- Clocks show a supported year. -/
theorem year_toCivil (h : ofParts? t.seconds t.nanos = some t) :
    -262143 ≤ t.toCivil.date.year ∧ t.toCivil.date.year ≤ 262142 := by
  obtain ⟨-, hlow, hhigh⟩ := ofParts?_eq_some h
  rw [toCivil, Date.year_ofDayNumber, Date.le_yearOf_iff, Date.yearOf_le_iff]
  simp only [yearStart, Date.epochStart, minSeconds, maxSeconds] at hlow hhigh ⊢
  omega

/-- What clocks show names the second that they show it in, with any nanoseconds, and an offset
says how many seconds earlier it is in UTC. -/
theorem ofCivil?_withNanos (h : ofParts? t.seconds t.nanos = some t) (nanos : Nat) (offset : Int) :
    ofCivil? { t.toCivil with nanos := nanos } offset =
      ofSeconds? (t.seconds - offset)
        (if t.toCivil.second = 60 then 1000000000 + nanos else nanos) := by
  obtain ⟨hhour, hminute, hsecond, hshown, -⟩ := toCivil_spec h
  obtain ⟨hlow, hhigh⟩ := year_toCivil h
  have hexists : t.toCivil.date.exists? = true := Date.exists?_ofDayNumber _
  simp only [ofCivil?, hexists, hlow, hhigh, hhour, hminute, hsecond, decide_true, Bool.and_true,
    if_true, hshown]

/-- What clocks in UTC show at an instant names it. -/
theorem ofCivil?_toCivil (h : ofParts? t.seconds t.nanos = some t) :
    ofCivil? t.toCivil 0 = some t := by
  obtain ⟨-, -, -, -, hnanos⟩ := toCivil_spec h
  obtain ⟨-, hrange⟩ := ofParts?_eq_some h
  refine (ofCivil?_withNanos h t.toCivil.nanos 0).trans ?_
  rw [hnanos, Int.sub_zero, ofSeconds?, if_pos hrange]

/-- Clocks show no second 60 outside of leap seconds. -/
theorem second_toCivil_ne (h : t.nanos < 1000000000) : t.toCivil.second ≠ 60 := by
  simp only [toCivil, Nat.not_le.mpr h, if_false]
  omega

theorem nanos_toCivil (h : t.nanos < 1000000000) : t.toCivil.nanos = t.nanos := by
  simp only [toCivil, Nat.not_le.mpr h, if_false]

/-- An instant in a year of four digits is supported. -/
theorem ofParts?_of_year (hnanos : t.nanos < 1000000000) (hlow : 0 ≤ t.toCivil.date.year)
    (hhigh : t.toCivil.date.year ≤ 9999) : ofParts? t.seconds t.nanos = some t := by
  rw [toCivil, Date.year_ofDayNumber, Date.le_yearOf_iff] at hlow
  rw [toCivil, Date.year_ofDayNumber, Date.yearOf_le_iff] at hhigh
  simp only [yearStart, Date.epochStart] at hlow hhigh
  have hrange : minSeconds ≤ t.seconds ∧ t.seconds ≤ maxSeconds := by
    simp only [minSeconds, maxSeconds]
    omega
  rw [ofParts?, if_pos (.inl hnanos), ofSeconds?, if_pos hrange]

/-! ### Whole milliseconds -/

/-- Whether an instant is the instant of a count of milliseconds. -/
def IsWholeMilli (t : Instant) : Prop :=
  ∃ ms, ofMillis? ms = some t

/-- The instant of a count of milliseconds. -/
theorem ofMillis?_eq_some_iff {ms : Int} :
    ofMillis? ms = some t ↔
      t.nanos < 1000000000 ∧ t.nanos % 1000000 = 0 ∧ t.millis = ms ∧
        minSeconds ≤ t.seconds ∧ t.seconds ≤ maxSeconds := by
  obtain ⟨seconds, nanos⟩ := t
  simp only [ofMillis?, ofSeconds?, Option.ite_none_right_eq_some, Option.some.injEq, mk.injEq,
    millis]
  omega

/-- The first supported count of milliseconds. -/
def minMillis : Int := -8334601228800000

/-- The last supported count of milliseconds. -/
def maxMillis : Int := 8210266876799999

/-- The counts of milliseconds that have an instant. -/
theorem isSome_ofMillis?_iff {ms : Int} :
    (ofMillis? ms).isSome ↔ minMillis ≤ ms ∧ ms ≤ maxMillis := by
  have hrange : minSeconds ≤ ms / 1000 ∧ ms / 1000 ≤ maxSeconds ↔
      minMillis ≤ ms ∧ ms ≤ maxMillis := by
    simp only [minSeconds, maxSeconds, minMillis, maxMillis]
    omega
  rw [ofMillis?, ofSeconds?, ← hrange]
  by_cases h : minSeconds ≤ ms / 1000 ∧ ms / 1000 ≤ maxSeconds
  · rw [if_pos h]
    exact iff_of_true rfl h
  · rw [if_neg h]
    exact iff_of_false nofun h

/-- A whole millisecond is the instant of its own count. -/
theorem IsWholeMilli.ofMillis?_millis (h : t.IsWholeMilli) : ofMillis? t.millis = some t := by
  obtain ⟨ms, h⟩ := h
  rwa [(ofMillis?_eq_some_iff.mp h).2.2.1]

/-- A whole millisecond is supported, and has nothing below a millisecond. -/
theorem IsWholeMilli.ofParts? (h : t.IsWholeMilli) :
    ofParts? t.seconds t.nanos = some t ∧ t.nanos % 1000000 = 0 := by
  obtain ⟨hnanos, hwhole, -, hrange⟩ := ofMillis?_eq_some_iff.mp h.ofMillis?_millis
  rw [Instant.ofParts?, if_pos (.inl hnanos), ofSeconds?, if_pos hrange]
  exact ⟨rfl, hwhole⟩

variable {u : Instant}

/-- Cutting down leaves a whole millisecond, where there is one in range. -/
theorem isWholeMilli_truncate (h : ofMillis? t.millis = some u) : t.truncate.IsWholeMilli := by
  rw [truncate, h]
  exact ⟨_, h⟩

/-- What is left of an instant is a whole millisecond, if its count is in range. -/
theorem isWholeMilli_truncate_of_le (hlow : minMillis ≤ t.truncate.millis)
    (hhigh : t.truncate.millis ≤ maxMillis) : t.truncate.IsWholeMilli := by
  cases h : ofMillis? t.millis with
  | some u => exact isWholeMilli_truncate h
  | none =>
    have hself : t.truncate = t := by rw [truncate, h, Option.getD_none]
    have hsome := isSome_ofMillis?_iff.mpr ⟨hlow, hhigh⟩
    rw [hself, h] at hsome
    cases hsome

/-- Whole milliseconds are the instants that are not cut down. -/
theorem isWholeMilli_iff_truncate_eq (h : ofMillis? t.millis = some u) :
    t.IsWholeMilli ↔ t.truncate = t := by
  refine ⟨fun hmilli => ?_, fun heq => heq ▸ isWholeMilli_truncate h⟩
  rw [truncate, hmilli.ofMillis?_millis, Option.getD_some]

end LogIntake.Time.Instant
