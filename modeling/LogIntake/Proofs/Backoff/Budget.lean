import LogIntake.Proofs.Backoff.Repetition
import LogIntake.Proofs.Pipeline.Attempts
import LogIntake.Store.Connection

/-!
# Budgets of attempts

The settings say how many calls may be made (`Backoff.maxAttempts`). Three counters of 32 bits go
along with the calls: the failures that are compared with the settings, the attempts to embed a
text and the attempts to write a batch. A backoff **keeps its budget** if no more calls are made
than may be and each counter is the number that it counts.

This is so but for one setting (`Backoff.keepsBudget_iff`). The largest number of repetitions is
not below any number of failures, so calls that keep failing are made for ever, and the counters
start again from zero.
-/

namespace LogIntake

namespace Backoff

variable {ε α : Type} {b : Backoff} {mayPass : ε → Bool} {results : Nat → Except ε α} {n : Nat}
  {s : State}

/-- The states in which another call is made after some calls, all of which have failed. -/
inductive Reaches (b : Backoff) (mayPass : ε → Bool) (results : Nat → Except ε α) :
    Nat → State → Prop where
  | start : Reaches b mayPass results 0 b.start
  | again {n : Nat} {s s' : State} {delay : UInt64} {e : ε} (h : Reaches b mayPass results n s)
      (hfails : results n = .error e) (hpasses : mayPass e = true)
      (hleft : b.afterFailure? s = some (delay, s')) : Reaches b mayPass results (n + 1) s'

/-- The calls do reach such a state. -/
theorem Reaches.exists_run?_eq (h : b.Reaches mayPass results n s) (fuel : Nat) :
    ∃ delays, b.run? mayPass results (fuel + n) 0 b.start [] =
      b.run? mayPass results fuel n s delays := by
  induction h generalizing fuel with
  | start => exact ⟨[], rfl⟩
  | @again n s s' delay e h hfails hpasses hleft ih =>
    obtain ⟨delays, hrun⟩ := ih (fuel + 1)
    refine ⟨delay :: delays, ?_⟩
    rw [← Nat.add_assoc, Nat.add_right_comm, hrun, run?, hfails]
    simp only [hpasses, if_true, hleft]

theorem toNat_maxAttempts (hmax : b.IsFinite) :
    b.maxAttempts.toNat = b.maxRetries.toNat + 1 := by
  rw [maxAttempts, if_neg hmax]
  exact toNat_failures_add_one (s := ⟨b.maxRetries, 0⟩) hmax (UInt32.le_refl _)

/-- The failures are counted, and not more than may be repeated. -/
theorem Reaches.counted (h : b.Reaches mayPass results n s) (hmax : b.IsFinite) :
    s.failures.toNat = n ∧ s.failures ≤ b.maxRetries := by
  induction h with
  | start => exact ⟨rfl, UInt32.le_iff_toNat_le.mpr (Nat.zero_le _)⟩
  | again h hfails hpasses hleft ih =>
    obtain ⟨hcount, hwithin⟩ := ih
    obtain ⟨-, hfailures, hle⟩ := afterFailure?_eq_some hleft
    rw [hfailures, toNat_failures_add_one hmax hwithin, hcount]
    exact ⟨rfl, hle⟩

/-- Calls that keep failing are made for ever, and their counter starts again from zero. -/
theorem reaches_of_max (hmax : b.maxRetries = 0xFFFFFFFF)
    (hfails : ∀ n, ∃ e, results n = .error e ∧ mayPass e = true) (n : Nat) :
    b.Reaches mayPass results n ⟨UInt32.ofNat n, b.nominal n⟩ := by
  induction n with
  | zero => exact .start
  | succ n ih =>
    obtain ⟨e, he, hpasses⟩ := hfails n
    have hnext := ih.again he hpasses (afterFailure?_of_max hmax _)
    rwa [UInt32.ofNat_add, UInt32.ofNat_one, nominal]

end Backoff

/-! ### Attempts to embed -/

namespace Call

variable {α : Type} {b : Backoff} {limit : Option Nat} {late : Fault} {reply : Unit → Reply α}
  {now n : Nat} {c c' : Call α}

/-- The number of attempts of which it is not known yet how they end. -/
def pending (c : Call α) : Nat :=
  match c.stage with
  | .calling _ _ _ _ => 1
  | .ready | .resting _ => 0

/-- How a call stands after some attempts. -/
structure Tally (b : Backoff) (c : Call α) (n : Nat) : Prop where
  attempts : c.attempts = UInt32.ofNat n
  within : c.IsWithin b
  made : n = c.backoff.failures.toNat + c.pending

theorem tally_start (b : Backoff) : Tally b (start b : Call α) 0 :=
  ⟨rfl, isWithin_start b, rfl⟩

theorem Tally.of_began (h : Tally b c n) (hgoes : c.Goes b limit late reply now (.began c')) :
    Tally b c' (n + 1) := by
  cases hgoes with
  | begins hready =>
    have hmade := h.made
    simp only [pending, hready] at hmade
    refine ⟨?_, h.within, congrArg (· + 1) hmade⟩
    rw [h.attempts, UInt32.ofNat_add, UInt32.ofNat_one]

theorem Tally.of_moved (h : Tally b c n) (hgoes : c.Goes b limit late reply now (.moved c'))
    (hmax : b.IsFinite) : Tally b c' n := by
  have hmade := h.made
  cases hgoes with
  | wakes hresting htill =>
    simp only [pending, hresting] at hmade
    exact ⟨h.attempts, h.within, hmade⟩
  | rests hcalling hends htransient hleft htill =>
    simp only [pending, hcalling] at hmade
    obtain ⟨-, hfailures, hle⟩ := Backoff.afterFailure?_eq_some hleft
    refine ⟨h.attempts, by rw [IsWithin, hfailures]; exact hle, ?_⟩
    rw [hfailures, Backoff.toNat_failures_add_one hmax h.within]
    exact hmade

/-- A call after some attempts with its counters, none of which has started again from zero. -/
structure IsCounted (b : Backoff) (c : Call α) (n : Nat) : Prop where
  le : n ≤ b.maxAttempts.toNat
  attempts : c.attempts.toNat = n
  failures : (c.backoff.failures + 1).toNat = c.backoff.failures.toNat + 1

theorem isCounted (hmax : b.IsFinite) (hattempts : c.attempts = UInt32.ofNat n)
    (hle : n ≤ b.maxRetries.toNat + 1) (hwithin : c.IsWithin b) : IsCounted b c n where
  le := by rwa [Backoff.toNat_maxAttempts hmax]
  attempts := by rw [hattempts, Backoff.toNat_ofNat_attempts hmax hle]
  failures := Backoff.toNat_failures_add_one hmax hwithin

theorem Tally.isCounted (h : Tally b c n) (hmax : b.IsFinite) :
    IsCounted b c n := by
  have hwithin := UInt32.le_iff_toNat_le.mp h.within
  have hmade := h.made
  have hpending : c.pending ≤ 1 := by
    rw [pending]
    split <;> decide
  exact Call.isCounted hmax h.attempts (by omega) h.within

theorem Failed.isWithin {past : List (Attempt α)} (h : Failed b c past)
    (hmax : b.IsFinite) : c.IsWithin b := by
  have hbound := h.bounded hmax
  rw [IsWithin, UInt32.le_iff_toNat_le, h.counted,
    Backoff.toNat_ofNat_attempts hmax (Nat.le_succ_of_le hbound)]
  exact hbound

theorem After.isCounted {past : List (Attempt α)} (h : c.After b past)
    (hmax : b.IsFinite) : IsCounted b c past.length := by
  refine Call.isCounted hmax h.attempts (h.repeats.bounded hmax) ?_
  have hstage := h.stage
  split at hstage
  · obtain ⟨-, earlier, -, hfailed⟩ := hstage
    exact hfailed.isWithin hmax
  · exact hstage.isWithin hmax
  · exact hstage.isWithin hmax

end Call

/-- How a client can have come to stand with a text after some attempts to embed it, at whatever
times its steps were taken and whatever the provider replied. -/
inductive Client.Reaches (c : Client) (text : String) : Nat → Call Embedding → Prop where
  | start : Reaches c text 0 c.start
  | begins {n now : Nat} {reply : Unit → Reply Embedding} {call call' : Call Embedding}
      (h : Reaches c text n call) (hstep : c.step text reply now call = .began call') :
    Reaches c text (n + 1) call'
  | moves {n now : Nat} {reply : Unit → Reply Embedding} {call call' : Call Embedding}
      (h : Reaches c text n call) (hstep : c.step text reply now call = .moved call') :
    Reaches c text n call'

theorem Client.Reaches.tally {c : Client} {text : String} {n : Nat} {call : Call Embedding}
    (h : c.Reaches text n call) (hmax : c.retry.IsFinite) :
    Call.Tally c.retry call n := by
  induction h with
  | start => exact Call.tally_start _
  | begins h hstep ih => exact ih.of_began (Client.step_goes hstep (.inl rfl))
  | moves h hstep ih => exact ih.of_moved (Client.step_goes hstep (.inr rfl)) hmax

/-! ### Budgets -/

namespace Backoff

open Pipeline (World Run)

/-- Whether no more calls are made than may be, and every counter is the number that it counts:
in the calls themselves, in embedding a text and in writing a batch. -/
structure KeepsBudget (b : Backoff) : Prop where
  ends : ∀ {ε α : Type} (mayPass : ε → Bool) (results : Nat → Except ε α),
    (b.run? mayPass results b.maxAttempts.toNat 0 b.start []).isSome
  calls : ∀ {ε α : Type} (mayPass : ε → Bool) (results : Nat → Except ε α) (n : Nat) (s : State),
    b.Reaches mayPass results n s → n < b.maxAttempts.toNat ∧ s.failures.toNat = n ∧
      (s.failures + 1).toNat = n + 1
  embeds : ∀ (c : Client), c.retry = b → ∀ (text : String) (n : Nat) (call : Call Embedding),
    c.Reaches text n call → call.IsCounted b n
  writes : ∀ (s : Pipeline.Settings), s.flushRetry = b →
    ∀ (c : Client) (backend : Pipeline.Backend) (w : World), Run (World.start s c backend) w →
      ∀ k ∈ w.workers, ∀ batch call next, k.phase = .writing batch call next →
        call.IsCounted b (w.attempts batch).length

variable {b : Backoff}

theorem isSome_run? (hmax : b.IsFinite) {ε α : Type} (mayPass : ε → Bool)
    (results : Nat → Except ε α) :
    (b.run? mayPass results b.maxAttempts.toNat 0 b.start []).isSome := by
  obtain ⟨o, j, hrun, -⟩ := exists_run? hmax mayPass results b.maxAttempts.toNat (s := b.start)
    (n := 0) rfl rfl (Nat.zero_le _) (by rw [toNat_maxAttempts hmax]; omega) []
  rw [hrun]
  rfl

theorem keepsBudget (hmax : b.IsFinite) : b.KeepsBudget where
  ends mayPass results := isSome_run? hmax mayPass results
  calls mayPass results n s h := by
    obtain ⟨hcount, hwithin⟩ := h.counted hmax
    have hle := UInt32.le_iff_toNat_le.mp hwithin
    rw [toNat_maxAttempts hmax, toNat_failures_add_one hmax hwithin, hcount]
    exact ⟨by omega, rfl, rfl⟩
  embeds c hc text n call h := by
    subst hc
    exact (h.tally hmax).isCounted hmax
  writes s hs c backend w r k hk batch call next hphase := by
    have hsettings : w.settings = s := r.fixed.settings
    have hafter := r.tried.current k hk batch call next hphase
    rw [hsettings, hs] at hafter
    exact hafter.isCounted hmax

/-- With the largest number of repetitions calls that keep failing have not come to an end when as
many have been made as may be. -/
theorem not_keepsBudget (hmax : b.maxRetries = 0xFFFFFFFF) : ¬ b.KeepsBudget := by
  intro h
  have hreaches : b.Reaches (fun _ : Unit => true) (fun _ => (.error () : Except Unit Unit))
      b.maxAttempts.toNat _ := reaches_of_max hmax (fun _ => ⟨(), rfl, rfl⟩) _
  obtain ⟨delays, hrun⟩ := hreaches.exists_run?_eq 0
  have hends := h.ends (fun _ : Unit => true) (fun _ => (.error () : Except Unit Unit))
  rw [Nat.zero_add] at hrun
  rw [hrun] at hends
  cases hends

/-- **Budgets are kept** unless the number of repetitions is the largest of 32 bits. -/
theorem keepsBudget_iff (b : Backoff) : b.KeepsBudget ↔ b.maxRetries ≠ 0xFFFFFFFF :=
  ⟨fun h hmax => not_keepsBudget hmax h, keepsBudget⟩

/-- The backoff of a program that waits for its store does not keep its budget. -/
theorem not_forall_keepsBudget : ¬ ∀ b : Backoff, b.KeepsBudget :=
  fun h => not_keepsBudget rfl (h Store.Connection.backoff)

end Backoff

end LogIntake
