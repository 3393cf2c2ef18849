import LogIntake.Embedding.Client

/-!
# What a call can do

`Call.Goes` lists what a step of a call can come to, each time with where the call stood before;
`Call.goes_step` says that the list is complete. What holds along a call is shown by cases on it.

A call is **within its budget** as long as no more attempts have failed than may be repeated. It
never leaves its budget, and each of its steps brings it nearer to its end: `Call.stepsLeft` bounds
the number of those that are left. This needs a number of repetitions that can be counted one
further in 32 bits, as the number of failures is.

`Call.After` says how a call without a limit stands after some attempts: all of them but the last
one have failed in a way that may pass. `After.of_ended` tells the attempts of a call that ends
from the response that it ends with.
-/

namespace LogIntake

namespace Backoff

variable {b : Backoff} {s s' : State} {delay : UInt64}

/-- Whether failures can be counted in 32 bits up to one more than may be repeated. -/
def IsFinite (b : Backoff) : Prop :=
  b.maxRetries ≠ 0xFFFFFFFF

/-- No delay but the first one is longer than the bound. -/
theorem toNat_nextDelay_le (b : Backoff) (d : UInt64) :
    (b.nextDelay d).toNat ≤ b.maxDelay.toNat :=
  UInt64.le_iff_toNat_le.mp Std.min_le_right

theorem afterFailure?_eq_some (h : b.afterFailure? s = some (delay, s')) :
    delay = s.delay ∧ s'.failures = s.failures + 1 ∧ s.failures + 1 ≤ b.maxRetries := by
  simp only [afterFailure?] at h
  split at h
  · cases h
  · rename_i hle
    cases h
    exact ⟨rfl, rfl, UInt32.not_lt.mp hle⟩

theorem afterFailure?_eq_none (h : b.afterFailure? s = none) :
    b.maxRetries < s.failures + 1 := by
  simp only [afterFailure?] at h
  split at h
  · assumption
  · cases h

/-- As long as the repetitions can be counted, one failure more is counted as such. -/
theorem toNat_failures_add_one (hmax : b.IsFinite)
    (h : s.failures ≤ b.maxRetries) : (s.failures + 1).toNat = s.failures.toNat + 1 := by
  have hle := UInt32.le_iff_toNat_le.mp h
  have hlt := b.maxRetries.toNat_lt
  have hne : b.maxRetries.toNat ≠ 4294967295 := fun heq => hmax (UInt32.toNat_inj.mp heq)
  rw [UInt32.toNat_add, UInt32.toNat_one]
  omega

/-- As long as the repetitions can be counted, so can the attempts. -/
theorem toNat_ofNat_attempts (hmax : b.IsFinite) {n : Nat}
    (h : n ≤ b.maxRetries.toNat + 1) : (UInt32.ofNat n).toNat = n := by
  have hlt := b.maxRetries.toNat_lt
  have hne : b.maxRetries.toNat ≠ 4294967295 := fun heq => hmax (UInt32.toNat_inj.mp heq)
  have hsize : UInt32.size = 4294967296 := rfl
  exact UInt32.toNat_ofNat_of_lt' (by omega)

/-- A failure that leaves another repetition. -/
theorem afterFailure?_of_lt (hmax : b.IsFinite)
    (h : s.failures.toNat < b.maxRetries.toNat) :
    b.afterFailure? s = some (s.delay, ⟨s.failures + 1, b.nextDelay s.delay⟩) := by
  have hwithin : s.failures ≤ b.maxRetries := UInt32.le_iff_toNat_le.mpr (Nat.le_of_lt h)
  have hsucc := toNat_failures_add_one hmax hwithin
  rw [afterFailure?]
  exact if_neg fun hlt => absurd (UInt32.lt_iff_toNat_lt.mp hlt) (by omega)

/-- The failure of the last repetition. -/
theorem afterFailure?_of_eq (hmax : b.IsFinite)
    (h : s.failures.toNat = b.maxRetries.toNat) : b.afterFailure? s = none := by
  have hwithin : s.failures ≤ b.maxRetries := UInt32.le_iff_toNat_le.mpr (Nat.le_of_eq h)
  have hsucc := toNat_failures_add_one hmax hwithin
  rw [afterFailure?]
  exact if_pos (UInt32.lt_iff_toNat_lt.mpr (by omega))

/-- With the largest number of repetitions there is always one left. -/
theorem afterFailure?_of_max (hmax : b.maxRetries = 0xFFFFFFFF) (s : State) :
    b.afterFailure? s = some (s.delay, ⟨s.failures + 1, b.nextDelay s.delay⟩) := by
  have htop := (s.failures + 1).toNat_lt
  rw [afterFailure?, hmax]
  exact if_neg fun hlt =>
    absurd (UInt32.lt_iff_toNat_lt.mp hlt) (Nat.not_lt.mpr (Nat.le_of_lt_succ htop))

end Backoff

namespace Call

variable {α : Type} {b : Backoff} {limit : Option Nat} {late : Fault} {reply : Unit → Reply α}
  {now : Nat} {c c' : Call α}

/-- How an attempt that is due at a time has ended by now: as the backend says, or because it took
too long. -/
inductive Ends (now due : Nat) (response : Response α) (limit : Option Nat) (late : Fault) :
    Response α → Prop where
  | answered (hdue : due ≤ now) : Ends now due response limit late response
  | timedOut {l : Nat} (hlate : now < due) (hlimit : limit = some l) (hl : l ≤ now) :
    Ends now due response limit late (.fails late)

/-- What a step of a call can come to. -/
inductive Goes (b : Backoff) (limit : Option Nat) (late : Fault) (reply : Unit → Reply α)
    (now : Nat) (c : Call α) : Progress α → Prop where
  /-- An attempt is made. -/
  | begins (hready : c.stage = .ready) :
    Goes b limit late reply now c (.began { c with
      stage := .calling (now + (reply ()).delay) (reply ()).response (limit.map (now + ·))
        (reply ()).chance
      attempts := c.attempts + 1 })
  /-- The rest before an attempt is over. -/
  | wakes {till : Nat} (hresting : c.stage = .resting till) (htill : till ≤ now) :
    Goes b limit late reply now c (.moved { c with stage := .ready })
  /-- An attempt failed, and is repeated after a rest. -/
  | rests {due till : Nat} {response : Response α} {l : Option Nat} {chance : Fin 50} {f : Fault}
      {delay : UInt64} {s : Backoff.State} (hcalling : c.stage = .calling due response l chance)
      (hends : Ends now due response l late (.fails f)) (htransient : f.isTransient = true)
      (hleft : b.afterFailure? c.backoff = some (delay, s)) (htill : now ≤ till) :
    Goes b limit late reply now c (.moved { c with stage := .resting till, backoff := s })
  /-- An attempt ended, and the call with it. -/
  | ends {due : Nat} {response r : Response α} {l : Option Nat} {chance : Fin 50}
      (hcalling : c.stage = .calling due response l chance)
      (hends : Ends now due response l late r)
      (hlast : ∀ f, r = .fails f → f.isTransient = true → b.afterFailure? c.backoff = none) :
    Goes b limit late reply now c (.ended r)
  /-- Only time can help. -/
  | waits (hlater : ∀ t ∈ c.stage.alarms, now < t) : Goes b limit late reply now c .blocked

private theorem goes_settle {due : Nat} {response r : Response α} {l : Option Nat}
    {chance : Fin 50} (hcalling : c.stage = .calling due response l chance)
    (hends : Ends now due response l late r) :
    c.Goes b limit late reply now (c.settle b chance now r) := by
  cases r with
  | gives a => exact .ends hcalling hends nofun
  | breaks => exact .ends hcalling hends nofun
  | fails f =>
    simp only [settle]
    split
    · rename_i htransient
      split
      · rename_i delay s hleft
        exact .rests hcalling hends htransient hleft (Nat.le_add_right _ _)
      · rename_i hnone
        exact .ends hcalling hends fun _ _ _ => hnone
    · rename_i hpermanent
      refine .ends hcalling hends fun f' hf' htransient => absurd htransient ?_
      cases hf'
      exact hpermanent

/-- **Every step of a call is in the list.** -/
theorem goes_step (b : Backoff) (limit : Option Nat) (late : Fault) (reply : Unit → Reply α)
    (now : Nat) (c : Call α) :
    c.Goes b limit late reply now (c.step b limit late reply now) := by
  simp only [step]
  split
  · rename_i hready
    exact .begins hready
  · rename_i due response l chance hcalling
    split
    · rename_i hdue
      exact goes_settle hcalling (.answered hdue)
    · rename_i hlate
      split
      · split
        · rename_i l hl
          exact goes_settle hcalling (.timedOut (by omega) rfl hl)
        · rename_i l hl
          refine .waits fun t ht => ?_
          simp only [hcalling, Stage.alarms, Option.toList_some, List.mem_cons,
            List.not_mem_nil, or_false] at ht
          omega
      · refine .waits fun t ht => ?_
        simp only [hcalling, Stage.alarms, Option.toList_none, List.mem_cons,
          List.not_mem_nil, or_false] at ht
        omega
  · rename_i till hresting
    split
    · rename_i htill
      exact .wakes hresting htill
    · refine .waits fun t ht => ?_
      simp only [hresting, Stage.alarms, List.mem_singleton] at ht
      omega

/-! ### Budgets -/

/-- No more attempts have failed than may be repeated. -/
def IsWithin (b : Backoff) (c : Call α) : Prop :=
  c.backoff.failures ≤ b.maxRetries

theorem isWithin_start (b : Backoff) : (start b : Call α).IsWithin b :=
  UInt32.le_iff_toNat_le.mpr (Nat.zero_le _)

/-- A bound on the number of steps of a call: three for each attempt. -/
def stepsLeft (b : Backoff) (c : Call α) : Nat :=
  3 * (b.maxRetries.toNat - c.backoff.failures.toNat) +
    match c.stage with
    | .ready => 3
    | .calling _ _ _ _ => 2
    | .resting _ => 4

theorem stepsLeft_start (b : Backoff) :
    stepsLeft b (start b : Call α) = 3 * b.maxRetries.toNat + 3 := by
  simp [stepsLeft, start, Backoff.start]

/-- A call that goes on stays within its budget, and comes nearer to its end. -/
theorem Goes.stepsLeft_lt {p : Progress α} (h : c.Goes b limit late reply now p)
    (hc : c.IsWithin b) (hp : p = .began c' ∨ p = .moved c') :
    c'.IsWithin b ∧ (b.IsFinite → c'.stepsLeft b < c.stepsLeft b) := by
  cases h with
  | begins hready =>
    obtain rfl := by simpa using hp
    exact ⟨hc, fun _ => by simp only [stepsLeft, hready]; omega⟩
  | wakes hresting htill =>
    obtain rfl := by simpa using hp
    exact ⟨hc, fun _ => by simp only [stepsLeft, hresting]; omega⟩
  | rests hcalling hends htransient hleft =>
    obtain rfl := by simpa using hp
    obtain ⟨-, hfailures, hle⟩ := Backoff.afterFailure?_eq_some hleft
    refine ⟨by rw [IsWithin, hfailures]; exact hle, fun hmax => ?_⟩
    -- One more attempt has failed, and its place in the budget is free.
    have hcount := Backoff.toNat_failures_add_one hmax hc
    have hle := UInt32.le_iff_toNat_le.mp hle
    simp only [stepsLeft, hcalling, hfailures]
    omega
  | ends hcalling hends hlast => simp at hp
  | waits hlater => simp at hp

/-- A call that has just gone on sets its alarms for later. -/
theorem Goes.le_alarms {p : Progress α} (h : c.Goes b none late reply now p)
    (hp : p = .began c' ∨ p = .moved c') : ∀ t ∈ c'.stage.alarms, now ≤ t := by
  cases h with
  | begins hready =>
    obtain rfl := by simpa using hp
    simp [Stage.alarms]
  | wakes hresting htill =>
    obtain rfl := by simpa using hp
    simp [Stage.alarms]
  | rests hcalling hends htransient hleft htill =>
    obtain rfl := by simpa using hp
    simpa [Stage.alarms] using htill
  | ends hcalling hends hlast => simp at hp
  | waits hlater => simp at hp

/-! ### Attempts -/

/-- An attempt: when it ends, and how. -/
structure Attempt (α : Type) where
  due : Nat
  response : Response α

/-- An attempt that fails in a way that may pass. -/
def Attempt.IsTransient (a : Attempt α) : Prop :=
  ∃ f, a.response = .fails f ∧ f.isTransient = true

/-- What holds of the attempts of one call, which are given last one first. -/
structure Repeats (b : Backoff) (past : List (Attempt α)) : Prop where
  /-- Only what failed in a way that may pass was repeated. -/
  transient : ∀ a ∈ past.tail, a.IsTransient
  bounded : b.IsFinite → past.length ≤ b.maxRetries.toNat + 1

theorem repeats_nil (b : Backoff) : Repeats b ([] : List (Attempt α)) :=
  ⟨nofun, fun _ => Nat.zero_le _⟩

/-- What holds of a call all of whose attempts have failed in a way that may pass. -/
structure Failed (b : Backoff) (c : Call α) (past : List (Attempt α)) : Prop where
  transient : ∀ a ∈ past, a.IsTransient
  counted : c.backoff.failures = UInt32.ofNat past.length
  bounded : b.IsFinite → past.length ≤ b.maxRetries.toNat

/-- How a call without a limit stands after some attempts, which are given last one first. -/
structure After (b : Backoff) (c : Call α) (past : List (Attempt α)) : Prop where
  attempts : c.attempts = UInt32.ofNat past.length
  stage : match c.stage with
    | .calling due response limit _ =>
      limit = none ∧ ∃ earlier, past = ⟨due, response⟩ :: earlier ∧ Failed b c earlier
    | .ready | .resting _ => Failed b c past

variable {past : List (Attempt α)}

theorem after_start (b : Backoff) : (start b : Call α).After b [] :=
  ⟨rfl, nofun, rfl, fun _ => Nat.zero_le _⟩

theorem Failed.repeats (h : Failed b c past) : Repeats b past :=
  ⟨fun a ha => h.transient a (List.mem_of_mem_tail ha),
    fun hmax => Nat.le_succ_of_le (h.bounded hmax)⟩

theorem After.repeats (h : c.After b past) : Repeats b past := by
  have hstage := h.stage
  split at hstage
  · obtain ⟨-, earlier, rfl, hfailed⟩ := hstage
    exact ⟨hfailed.transient, fun hmax => Nat.succ_le_succ (hfailed.bounded hmax)⟩
  · exact hstage.repeats
  · exact hstage.repeats

/-- A failure that is repeated is one more that was. -/
private theorem Failed.cons {a : Attempt α} {delay : UInt64} {s : Backoff.State}
    (h : Failed b c past) (ha : a.IsTransient)
    (hleft : b.afterFailure? c.backoff = some (delay, s)) (st : Stage α) :
    Failed b { c with stage := st, backoff := s } (a :: past) := by
  obtain ⟨-, hfailures, hle⟩ := Backoff.afterFailure?_eq_some hleft
  refine ⟨List.forall_mem_cons.mpr ⟨ha, h.transient⟩, ?_, fun hmax => ?_⟩
  · rw [hfailures, h.counted, List.length_cons, UInt32.ofNat_add, UInt32.ofNat_one]
  · have hwithin := h.bounded hmax
    have hcount : c.backoff.failures.toNat = past.length := by
      rw [h.counted, Backoff.toNat_ofNat_attempts hmax (Nat.le_succ_of_le hwithin)]
    have hsucc := Backoff.toNat_failures_add_one (s := c.backoff) hmax
      (UInt32.le_iff_toNat_le.mpr (hcount ▸ hwithin))
    have hle := UInt32.le_iff_toNat_le.mp hle
    rw [hsucc, hcount] at hle
    exact hle

/-- An attempt is made: it is the last one now. -/
theorem After.of_began (h : c.After b past) (hgoes : c.Goes b none late reply now (.began c')) :
    c'.attempts = UInt32.ofNat (past.length + 1) ∧
      c'.After b (⟨now + (reply ()).delay, (reply ()).response⟩ :: past) := by
  cases hgoes with
  | begins hready =>
    have hfailed := h.stage
    rw [hready] at hfailed
    have hattempts : c.attempts + 1 = UInt32.ofNat (past.length + 1) := by
      rw [h.attempts, UInt32.ofNat_add, UInt32.ofNat_one]
    exact ⟨hattempts, hattempts, rfl, past, rfl,
      hfailed.transient, hfailed.counted, hfailed.bounded⟩

/-- No attempt is made. -/
theorem After.of_moved (h : c.After b past) (hgoes : c.Goes b none late reply now (.moved c')) :
    c'.After b past := by
  have hstage := h.stage
  cases hgoes with
  | wakes hresting htill =>
    rw [hresting] at hstage
    exact ⟨h.attempts, hstage.transient, hstage.counted, hstage.bounded⟩
  | rests hcalling hends htransient hleft htill =>
    rw [hcalling] at hstage
    obtain ⟨rfl, earlier, rfl, hfailed⟩ := hstage
    cases hends with
    | timedOut _ hlimit _ => cases hlimit
    | answered hdue => exact ⟨h.attempts, hfailed.cons ⟨_, rfl, htransient⟩ hleft _⟩

/-- A call ends with the response of its last attempt, and with a failure that may pass only when
there is no attempt left. -/
theorem After.of_ended {r : Response α} (h : c.After b past)
    (hgoes : c.Goes b none late reply now (.ended r)) :
    ∃ due ≤ now, ∃ earlier, past = ⟨due, r⟩ :: earlier ∧ ∀ f, r = .fails f →
      f.isTransient = true → past.length = b.maxRetries.toNat + 1 := by
  cases hgoes with
  | ends hcalling hends hlast =>
    have hstage := h.stage
    rw [hcalling] at hstage
    obtain ⟨rfl, earlier, rfl, hfailed⟩ := hstage
    cases hends with
    | timedOut _ hlimit _ => cases hlimit
    | answered hdue =>
    refine ⟨_, hdue, earlier, rfl, fun f hf htransient => ?_⟩
    have hlt := UInt32.lt_iff_toNat_lt.mp (Backoff.afterFailure?_eq_none (hlast f hf htransient))
    have hmax : b.maxRetries ≠ 0xFFFFFFFF := by
      intro hmax
      have htop := (c.backoff.failures + 1).toNat_lt
      rw [hmax] at hlt
      exact absurd hlt (Nat.not_lt.mpr (Nat.le_of_lt_succ htop))
    have hwithin := hfailed.bounded hmax
    have hcount : c.backoff.failures.toNat = earlier.length := by
      rw [hfailed.counted, Backoff.toNat_ofNat_attempts hmax (Nat.le_succ_of_le hwithin)]
    rw [Backoff.toNat_failures_add_one (s := c.backoff) hmax
      (UInt32.le_iff_toNat_le.mpr (hcount ▸ hwithin)), hcount] at hlt
    exact Nat.le_antisymm (Nat.succ_le_succ hwithin) (Nat.succ_le_of_lt hlt)

/-- An attempt that has succeeded is the last one, and its end has not been looked at yet. -/
theorem After.due_mem_alarms {a : Attempt α} {x : α} (h : c.After b past) (ha : a ∈ past)
    (hgives : a.response = .gives x) : a.due ∈ c.stage.alarms := by
  have hnot : ¬ a.IsTransient := by
    rintro ⟨f, hf, -⟩
    rw [hgives] at hf
    cases hf
  have hstage := h.stage
  split at hstage
  · rename_i due response limit chance hcalling
    obtain ⟨-, earlier, rfl, hfailed⟩ := hstage
    rcases List.mem_cons.mp ha with rfl | ha
    · rw [hcalling]
      exact List.mem_cons_self
    · exact absurd (hfailed.transient a ha) hnot
  · exact absurd (hstage.transient a ha) hnot
  · exact absurd (hstage.transient a ha) hnot

end Call

namespace Client

/-- A step with which embedding goes on is one of its call. -/
theorem step_goes {c : Client} {text : String} {reply : Unit → Reply Embedding} {now : Nat}
    {call call' : Call Embedding} {p : Progress Embedding} (h : c.step text reply now call = p)
    (hp : p = .began call' ∨ p = .moved call') :
    call.Goes c.retry (some c.timeout) c.lateFault reply now p := by
  have hgoes := Call.goes_step c.retry (some c.timeout) c.lateFault reply now call
  simp only [step] at h
  split at h
  · subst h
    simp at hp
  · split at h
    · subst h
      simp at hp
    · subst h
      simp at hp
    · rwa [← h]

end Client

end LogIntake
