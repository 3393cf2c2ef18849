import LogIntake.Proofs.Backoff.Delays
import LogIntake.Proofs.Call

/-!
# Repeated calls

Calls are repeated until one of them is the last one (`Backoff.IsLast`), and what it comes to is
the result. `Backoff.Repetition` says which call that is and when each call is made; `run_repeats`
shows it by an induction on the calls that are left, along which the number of failures and the
delay are those that belong to the number of calls made.

The number of failures is compared with the number of repetitions after it was counted up, so
these must be few enough to be counted one further in 32 bits.
-/

namespace LogIntake.Backoff

variable {ε α : Type} {b : Backoff} {mayPass : ε → Bool} {results : Nat → Except ε α}
  {s : State} {n : Nat}

/-- Whether no call is made after call `n`, counted from zero: it succeeds, it fails in a way that
does not pass, or all repetitions have been used. -/
def IsLast (b : Backoff) (mayPass : ε → Bool) (results : Nat → Except ε α) (n : Nat) : Prop :=
  (∃ a, results n = .ok a) ∨ (∃ e, results n = .error e ∧ mayPass e = false) ∨
    n = b.maxRetries.toNat

/-- How long is slept after a failure and `n` others before it. -/
def pause (b : Backoff) (chance : Nat → Fin 50) (n : Nat) : Nat :=
  Time.sleepFor (b.wait (chance n) (b.nominal n)).toNat

/-- How calls go of which number `k`, counted from zero, is the last one. -/
structure Repetition (b : Backoff) (mayPass : ε → Bool) (results : Nat → Except ε α)
    (chance : Nat → Fin 50) (now : Nat) (o : Outcome ε α) (k : Nat) : Prop where
  last : IsLeast {n | b.IsLast mayPass results n} k
  attempts : o.attempts = k + 1
  result : o.result = results k
  /-- Each call but the first one is made as soon as the pause before it is over. -/
  times : callTimes now (o.waits b chance) =
    (List.range (k + 1)).map fun n => now + ∑ i ∈ Finset.range n, b.pause chance i
  plain : b.jitter = false → ∀ n, b.pause chance n = Time.sleepFor (b.nominal n).toNat
  jittered : ∀ n, Time.sleepFor ((b.nominal n).toNat / 2) ≤ b.pause chance n ∧
    b.pause chance n ≤ Time.sleepFor (b.nominal n).toNat
  doubled : b.multiplier = two → b.initialDelay.toNat < 2 ^ 53 → ∀ n, 1 ≤ n →
    (b.nominal n).toNat = min b.maxDelay.toNat (b.initialDelay.toNat * 2 ^ n)
  bounded : ∀ n, b.pause chance n ≤ max b.initialDelay.toNat b.maxDelay.toNat

/-! ### Times -/

theorem sleepFor_le (duration : Nat) : Time.sleepFor duration ≤ duration :=
  Nat.min_le_left _ _

theorem callTimes_map_range (f : Nat → UInt64) (now k : Nat) :
    callTimes now ((List.range k).map f) =
      (List.range (k + 1)).map fun n =>
        now + ∑ i ∈ Finset.range n, Time.sleepFor (f i).toNat := by
  induction k generalizing now f with
  | zero => simp [callTimes]
  | succ k ih =>
    rw [List.range_succ_eq_map, List.map_cons, List.map_map, callTimes, ih,
      List.range_succ_eq_map (n := k + 1), List.map_cons, List.map_map]
    simp only [Finset.range_zero, Finset.sum_empty, Nat.add_zero, Function.comp_def,
      Nat.succ_eq_add_one, Finset.sum_range_succ', List.cons.injEq, true_and]
    refine List.map_congr_left fun n _ => ?_
    omega

theorem pause_bounds (b : Backoff) (chance : Nat → Fin 50) (n : Nat) :
    Time.sleepFor ((b.nominal n).toNat / 2) ≤ b.pause chance n ∧
      b.pause chance n ≤ Time.sleepFor (b.nominal n).toNat :=
  sleepFor_wait_bounds b (chance n) (b.nominal n)

theorem pause_le (b : Backoff) (chance : Nat → Fin 50) (n : Nat) :
    b.pause chance n ≤ max b.initialDelay.toNat b.maxDelay.toNat :=
  (pause_bounds b chance n).2.trans ((sleepFor_le _).trans (toNat_nominal_le b n))

/-! ### Calls -/

/-- The call `n` is the last one. -/
theorem run?_of_isLast (hmax : b.IsFinite) (hs : s.failures.toNat = n)
    (h : b.IsLast mayPass results n) (fuel : Nat) (delays : List UInt64) :
    b.run? mayPass results (fuel + 1) n s delays = some ⟨results n, delays.reverse⟩ := by
  rw [run?]
  rcases h with ⟨a, ha⟩ | ⟨e, he, hpermanent⟩ | hn
  · rw [ha]
  · simp [he, hpermanent]
  · cases hresult : results n with
    | ok a => rfl
    | error e => simp [afterFailure?_of_eq hmax (hs.trans hn)]

/-- The call `n` is not the last one. -/
theorem run?_of_not_isLast (hmax : b.IsFinite) (hs : s.failures.toNat = n)
    (hle : n ≤ b.maxRetries.toNat) (h : ¬ b.IsLast mayPass results n) (fuel : Nat)
    (delays : List UInt64) : b.run? mayPass results (fuel + 1) n s delays =
      b.run? mayPass results fuel (n + 1) ⟨s.failures + 1, b.nextDelay s.delay⟩
        (s.delay :: delays) := by
  simp only [IsLast, not_or, not_exists, not_and] at h
  obtain ⟨hok, hpermanent, hn⟩ := h
  rw [run?]
  cases hresult : results n with
  | ok a => exact absurd hresult (hok a)
  | error e =>
    have htransient : mayPass e = true := by simpa using hpermanent e hresult
    have hlt : s.failures.toNat < b.maxRetries.toNat := by omega
    simp only [htransient, if_true, afterFailure?_of_lt hmax hlt]

/-- The calls from number `n` on, where all before it have failed in a way that may pass. -/
theorem exists_run? (hmax : b.IsFinite) (mayPass : ε → Bool)
    (results : Nat → Except ε α) (fuel : Nat) (hs : s.failures.toNat = n)
    (hdelay : s.delay = b.nominal n) (hle : n ≤ b.maxRetries.toNat)
    (hfuel : b.maxRetries.toNat < n + fuel) (delays : List UInt64) :
    ∃ o j, b.run? mayPass results fuel n s delays = some o ∧ o.result = results (n + j) ∧
      o.delays = delays.reverse ++ (List.range' n j).map b.nominal ∧
      b.IsLast mayPass results (n + j) ∧
      ∀ i, n ≤ i → i < n + j → ¬ b.IsLast mayPass results i := by
  induction fuel generalizing n s delays with
  | zero => omega
  | succ fuel ih =>
    by_cases hlast : b.IsLast mayPass results n
    · exact ⟨_, 0, run?_of_isLast hmax hs hlast fuel delays, rfl, (List.append_nil _).symm, hlast,
        by omega⟩
    · have hn : n ≠ b.maxRetries.toNat := fun hn => hlast (.inr (.inr hn))
      have hsucc := toNat_failures_add_one hmax (s := s)
        (UInt32.le_iff_toNat_le.mpr (by omega))
      obtain ⟨o, j, hrun, hresult, hdelays, hend, hearlier⟩ :=
        ih (n := n + 1) (s := ⟨s.failures + 1, b.nextDelay s.delay⟩)
          (hsucc.trans (congrArg (· + 1) hs)) (by rw [hdelay, nominal]) (by omega) (by omega)
          (s.delay :: delays)
      have hindex : n + 1 + j = n + (j + 1) := by omega
      rw [hindex] at hresult hend hearlier
      refine ⟨o, j + 1, ?_, hresult, ?_, hend, fun i hi hlt => ?_⟩
      · rw [run?_of_not_isLast hmax hs hle hlast, hrun]
      · rw [hdelays, hdelay, List.range'_succ, List.map_cons, List.reverse_cons,
          List.append_assoc, List.singleton_append]
      · obtain rfl | hlater := Nat.eq_or_lt_of_le hi
        · exact hlast
        · exact hearlier i hlater hlt

/-- **Repeated calls**: whatever the results are, the first call that is the last one gives the
result, and the pauses before the others are those of the delays. -/
theorem run_repeats (hmax : b.maxRetries ≠ 0xFFFFFFFF) (mayPass : ε → Bool)
    (results : Nat → Except ε α) (chance : Nat → Fin 50) (now : Nat) :
    ∃ o k, b.run mayPass results = some o ∧ b.Repetition mayPass results chance now o k := by
  obtain ⟨o, k, hrun, hresult, hdelays, hlast, hearlier⟩ :=
    exists_run? hmax mayPass results (b.maxRetries.toNat + 1) (s := b.start) (n := 0) rfl rfl
      (Nat.zero_le _) (by omega) []
  rw [Nat.zero_add] at hresult hlast hearlier
  rw [List.reverse_nil, List.nil_append, ← List.range_eq_range'] at hdelays
  have hwaits : o.waits b chance =
      (List.range k).map fun n => b.wait (chance n) (b.nominal n) := by
    refine List.ext_getElem (by simp [Outcome.waits, hdelays]) fun i hi hi' => ?_
    simp [Outcome.waits, hdelays]
  refine ⟨o, k, hrun, ⟨hlast, fun i hi => ?_⟩, ?_, hresult, ?_, fun hjitter n => ?_,
    pause_bounds b chance, fun htwo hinitial n hn => ?_, pause_le b chance⟩
  · by_contra hlt
    exact hearlier i (Nat.zero_le i) (Nat.not_le.mp hlt) hi
  · rw [Outcome.attempts, hdelays, List.length_map, List.length_range]
  · rw [hwaits]
    exact callTimes_map_range _ now k
  · rw [pause, wait_of_no_jitter hjitter]
  · obtain ⟨n, rfl⟩ := Nat.exists_eq_add_of_le' hn
    rw [toNat_nominal_of_two htwo (Nat.le_of_lt hinitial), Nat.min_comm]

/-- Four calls fail, the last of them in a way that does not pass. -/
theorem run_repeats_standard : standard.maxRetries ≠ 0xFFFFFFFF ∧
    ∃ o k, standard.run (· < 3) (fun n => .error n : Nat → Except Nat Unit) = some o ∧
      standard.Repetition (· < 3) (fun n => .error n) (fun _ => 0) 0 o k :=
  ⟨by decide, run_repeats (by decide) _ _ _ 0⟩

/-- A delay of more than thirty years is not waited for to its end. -/
theorem not_forall_gap_eq_nominal : ¬ ∀ (b : Backoff) (mayPass : Nat → Bool)
    (results : Nat → Except Nat Unit) (chance : Nat → Fin 50) (o : Outcome Nat Unit),
    b.maxRetries ≠ 0xFFFFFFFF → b.jitter = false → b.run mayPass results = some o →
      ∀ n < o.delays.length, ∃ t, (callTimes 0 (o.waits b chance))[n]? = some t ∧
        (callTimes 0 (o.waits b chance))[n + 1]? = some (t + (b.nominal n).toNat) := by
  intro h
  obtain ⟨t, hfirst, hsecond⟩ := h ⟨1, 1000000000000, 1000000000000, two, false⟩ (fun _ => true)
    (fun n => .error n) (fun _ => 0) ⟨.error 1, [1000000000000]⟩ (by decide) rfl rfl 0
    (by decide)
  obtain rfl : 0 = t := Option.some.inj hfirst
  exact absurd (Option.some.inj hsecond) (by decide)

end LogIntake.Backoff
