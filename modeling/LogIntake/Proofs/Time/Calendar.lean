import LogIntake.Time.Calendar

/-!
# Days and dates

The days of the calendar are counted without a gap: a year begins where the one before it has
ended (`yearStart_succ`), and so does a month (`daysBeforeMonth_succ`). So every day lies in one
year (`Date.yearOf_spec`) and, in that year, in one month (`Date.monthAndDay_spec`), and the date of
a day exists and is that day (`Date.dayNumber_ofDayNumber`). This holds of all days, also of those
before the year one.
-/

namespace LogIntake.Time

/-! ### Years and months -/

/-- A year has 365 days, or 366 if it is a leap year. -/
theorem yearStart_succ (y : Int) :
    yearStart (y + 1) = yearStart y + if isLeapYear y then 366 else 365 := by
  simp only [yearStart, isLeapYear, decide_eq_true_eq]
  split <;> omega

/-- Years begin in their order. -/
theorem yearStart_le_yearStart {y z : Int} (h : y ≤ z) : yearStart y ≤ yearStart z := by
  simp only [yearStart]
  omega

/-- A month begins where the one before it ends. -/
theorem daysBeforeMonth_succ (leap : Bool) (m : Nat) :
    daysBeforeMonth leap (m + 1) = daysBeforeMonth leap m + daysInMonth leap m := by
  simp only [daysBeforeMonth, List.range_succ, List.map_append, List.foldl_append, List.map_cons,
    List.map_nil, List.foldl_cons, List.foldl_nil]

/-- No month is longer than 31 days. -/
theorem daysInMonth_le (leap : Bool) (m : Nat) : daysInMonth leap m ≤ 31 := by
  unfold daysInMonth
  split <;> (try split) <;> decide

/-- The months of a year have as many days as the year. -/
theorem daysBeforeMonth_thirteen (leap : Bool) :
    daysBeforeMonth leap 13 = if leap then 366 else 365 := by
  cases leap <;> rfl

namespace Date

/-! ### The date of a day -/

/-- The mean length of a year leads to the year of a day, or to one beside it. -/
theorem yearStart_guess (n : Int) :
    yearStart (400 * n / 146097) ≤ n ∧ n < yearStart (400 * n / 146097 + 1 + 1 + 1) := by
  simp only [yearStart]
  omega

/-- Every day lies in its year. -/
theorem yearOf_spec (n : Int) : yearStart (yearOf n) ≤ n ∧ n < yearStart (yearOf n + 1) := by
  obtain ⟨hlow, hhigh⟩ := yearStart_guess n
  rw [yearOf]
  -- the year is the one that was guessed, the one before it or the one after it
  generalize 400 * n / 146097 = g at hlow hhigh ⊢
  by_cases hbefore : n < yearStart (g + 1)
  · rw [if_pos hbefore, Int.add_sub_cancel]
    exact ⟨hlow, hbefore⟩
  rw [if_neg hbefore]
  by_cases hafter : yearStart (g + 1 + 1) ≤ n
  · rw [if_pos hafter]
    exact ⟨hafter, hhigh⟩
  · rw [if_neg hafter]
    exact ⟨Int.not_lt.mp hbefore, Int.not_le.mp hafter⟩

/-- A day lies in a year or after it if it is not before the first day of the year. -/
theorem le_yearOf_iff {y n : Int} : y ≤ yearOf n ↔ yearStart y ≤ n := by
  obtain ⟨hlow, hhigh⟩ := yearOf_spec n
  constructor
  · exact fun h => Int.le_trans (yearStart_le_yearStart h) hlow
  · refine fun h => Int.not_lt.mp fun hlt => ?_
    have hnext : yearStart (yearOf n + 1) ≤ yearStart y := yearStart_le_yearStart hlt
    omega

/-- A day lies in a year or before it if it is before the first day of the year that follows. -/
theorem yearOf_le_iff {y n : Int} : yearOf n ≤ y ↔ n < yearStart (y + 1) := by
  rw [← Int.not_le (b := n), ← le_yearOf_iff, Int.add_one_le_iff, Int.not_lt]

/-- Skipping months leads to the month that a day lies in, if it lies in one that is looked at. -/
theorem monthAndDay_spec (leap : Bool) (m n fuel : Nat)
    (h : daysBeforeMonth leap m + n < daysBeforeMonth leap (m + fuel + 1)) :
    let r := monthAndDay leap m n fuel
    m ≤ r.1 ∧ r.1 ≤ m + fuel ∧ r.2 < daysInMonth leap r.1 ∧
      daysBeforeMonth leap r.1 + r.2 = daysBeforeMonth leap m + n := by
  induction fuel generalizing m n with
  | zero =>
    rw [Nat.add_zero, daysBeforeMonth_succ] at h
    exact ⟨Nat.le_refl m, Nat.le_refl m, Nat.lt_of_add_lt_add_left h, rfl⟩
  | succ fuel ih =>
    rw [monthAndDay]
    dsimp only
    split
    · rename_i hlt
      exact ⟨Nat.le_refl m, Nat.le_add_right m _, hlt, rfl⟩
    · rename_i hge
      -- the month is skipped, and the days up to the one looked for stay the same
      have hsucc := daysBeforeMonth_succ leap m
      have hnext : m + 1 + fuel + 1 = m + (fuel + 1) + 1 := by omega
      obtain ⟨hle, hle', hlt, heq⟩ := ih (m + 1) (n - daysInMonth leap m) (by rw [hnext]; omega)
      exact ⟨by omega, by omega, hlt, by omega⟩

/-- A day of a year lies in one of its months. -/
theorem monthAndDay_year (leap : Bool) (n : Nat) (h : n < if leap then 366 else 365) :
    let r := monthAndDay leap 1 n 11
    1 ≤ r.1 ∧ r.1 ≤ 12 ∧ r.2 < daysInMonth leap r.1 ∧ daysBeforeMonth leap r.1 + r.2 = n := by
  have hjanuary : daysBeforeMonth leap 1 = 0 := rfl
  have hspec := monthAndDay_spec leap 1 n 11
    (by rw [hjanuary, Nat.zero_add, daysBeforeMonth_thirteen]; exact h)
  rwa [hjanuary, Nat.zero_add] at hspec

/-- A day is less than a year after the first day of its year. -/
theorem dayOfYear_lt (n : Int) :
    (n - yearStart (yearOf n)).toNat < if isLeapYear (yearOf n) then 366 else 365 := by
  obtain ⟨hlow, hhigh⟩ := yearOf_spec n
  rw [yearStart_succ] at hhigh
  generalize isLeapYear (yearOf n) = leap at hhigh ⊢
  cases leap <;> simp only [if_true, if_false, Bool.false_eq_true] at hhigh ⊢ <;> omega

/-- The date of a day is a date of the calendar, and it is that day. -/
theorem ofDayNumber_spec (n : Int) :
    let d := ofDayNumber n
    1 ≤ d.month ∧ d.month ≤ 12 ∧ 1 ≤ d.day ∧ d.day ≤ daysInMonth (isLeapYear d.year) d.month ∧
      d.dayNumber = n := by
  have hyear := (yearOf_spec (n + epochStart)).1
  obtain ⟨hlow, hhigh, hday, hsum⟩ := monthAndDay_year _ _ (dayOfYear_lt (n + epochStart))
  refine ⟨hlow, hhigh, Nat.le_add_left 1 _, hday, ?_⟩
  simp only [dayNumber, ofDayNumber]
  omega

theorem year_ofDayNumber (n : Int) : (ofDayNumber n).year = yearOf (n + epochStart) :=
  rfl

theorem exists?_ofDayNumber (n : Int) : (ofDayNumber n).exists? = true := by
  obtain ⟨-, -, hlow, hhigh, -⟩ := ofDayNumber_spec n
  rw [exists?, Bool.and_eq_true, decide_eq_true_eq, decide_eq_true_eq]
  exact ⟨hlow, hhigh⟩

theorem dayNumber_ofDayNumber (n : Int) : (ofDayNumber n).dayNumber = n :=
  (ofDayNumber_spec n).2.2.2.2

end Date

end LogIntake.Time
