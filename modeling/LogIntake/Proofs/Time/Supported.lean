import LogIntake.Proofs.Time.Written

/-!
# What is read is supported

Every written time that is read is an instant of the supported range, with the nanoseconds of a
second or of a leap second at the end of a minute (`ofRfc3339?_supported`, `ofLocal?_supported`). A
fraction is less than a second, so the digits of a leap second do not lead behind it; and an offset
is a whole number of minutes, so a second at the end of a minute on clocks somewhere is at the end
of a minute in UTC.
-/

namespace LogIntake.Time

variable {t : Instant} {c : Civil} {date : Date} {s r : List Char}

/-! ### Fields -/

theorem fraction?_lt {nanos : Nat} (h : fraction? s = some (nanos, r)) : nanos < 1000000000 := by
  unfold fraction? at h
  split at h
  · rename_i rest
    simp only [Option.ite_none_left_eq_some, Option.some.injEq, Prod.mk.injEq] at h
    obtain ⟨-, rfl, -⟩ := h
    exact nanosOf_lt fun c => List.mem_takeWhile_imp
  · obtain ⟨rfl, -⟩ := Prod.mk.inj (Option.some.inj h)
    decide

/-- An offset is a whole number of minutes. -/
theorem offset?_emod {separator? : List Char → Option (List Char)} {offset : Int}
    (h : offset? separator? s = some (offset, r)) : offset % 60 = 0 := by
  rw [offset?.eq_def] at h
  split at h
  · obtain ⟨rfl, -⟩ := Prod.mk.inj (Option.some.inj h)
    rfl
  · obtain ⟨rfl, -⟩ := Prod.mk.inj (Option.some.inj h)
    rfl
  · simp only [Option.bind_eq_bind, Option.bind_eq_some_iff, Prod.exists] at h
    obtain ⟨sign, _, -, hours, _, -, _, -, minutes, _, -, h⟩ := h
    simp only [Option.ite_none_right_eq_some, Option.some.injEq, Prod.mk.injEq] at h
    obtain ⟨-, rfl, -⟩ := h
    have hminutes : (60 : Int) ∣ (hours * 3600 + minutes * 60 : Nat) := by omega
    exact Int.emod_eq_zero_of_dvd (hminutes.mul_left sign)

theorem nanos_fixedTime? (h : fixedTime? date s = some (c, r)) : c.nanos < 1000000000 := by
  simp only [fixedTime?, Option.bind_eq_bind, Option.bind_eq_some_iff, Prod.exists,
    Option.pure_def, Option.some.injEq, Prod.mk.injEq] at h
  obtain ⟨_, _, -, _, -, _, _, -, _, -, _, _, -, _, _, hfraction, rfl, -⟩ := h
  exact fraction?_lt hfraction

theorem nanos_shortTime? {gap : List Char → List Char} (h : shortTime? gap date s = some (c, r)) :
    c.nanos < 1000000000 := by
  simp only [shortTime?, Option.bind_eq_bind, Option.bind_eq_some_iff, Prod.exists,
    Option.pure_def, Option.some.injEq, Prod.mk.injEq] at h
  obtain ⟨_, _, -, _, -, _, _, -, _, -, _, _, -, _, _, hfraction, rfl, -⟩ := h
  exact fraction?_lt hfraction

/-! ### Instants -/

namespace Instant

/-- A date and time with less than a second behind its second names a supported instant. -/
theorem ofCivil?_supported {offset : Int} (hnanos : c.nanos < 1000000000)
    (hoffset : offset % 60 = 0) (h : ofCivil? c offset = some t) :
    ofParts? t.seconds t.nanos = some t := by
  simp only [ofCivil?, ofSeconds?, Option.ite_none_right_eq_some, Option.some.injEq] at h
  obtain ⟨-, hrange, rfl⟩ := h
  simp only [ofParts?, ofSeconds?, Option.ite_none_right_eq_some, and_true]
  refine ⟨?_, hrange⟩
  by_cases hleap : c.second = 60
  · simp only [hleap, if_true]
    omega
  · simp only [hleap, if_false, hnanos, true_or]

theorem ofRfc3339?_supported (h : ofRfc3339? s = some t) : ofParts? t.seconds t.nanos = some t := by
  simp only [ofRfc3339?_eq, Option.bind_eq_bind, Option.bind_eq_some_iff, Prod.exists,
    Option.ite_none_right_eq_some] at h
  obtain ⟨date, _, -, _, -, c, _, hc, offset, _, hoffset, -, h⟩ := h
  exact ofCivil?_supported (nanos_fixedTime? hc) (offset?_emod hoffset) h

theorem ofLocalWith?_supported {between? : List Char → Option (List Char)}
    (h : ofLocalWith? between? s = some t) : ofParts? t.seconds t.nanos = some t := by
  simp only [ofLocalWith?, Option.bind_eq_bind, Option.bind_eq_some_iff, Prod.exists,
    Option.ite_none_right_eq_some] at h
  obtain ⟨date, _, -, _, -, c, _, hc, -, h⟩ := h
  exact ofCivil?_supported (nanos_shortTime? hc) (by decide) h

theorem ofLocal?_supported (h : ofLocal? s = some t) : ofParts? t.seconds t.nanos = some t := by
  rw [ofLocal?, Option.orElse_eq_orElse, Option.orElse_eq_or, Option.or_eq_some_iff] at h
  rcases h with h | ⟨-, h⟩
  · exact ofLocalWith?_supported h
  · exact ofLocalWith?_supported h

theorem ofMillis?_supported {ms : Int} (h : ofMillis? ms = some t) :
    ofParts? t.seconds t.nanos = some t :=
  (IsWholeMilli.ofParts? ⟨ms, h⟩).1

end Instant

end LogIntake.Time
