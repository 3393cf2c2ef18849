import LogIntake.Proofs.Embedding.Attempts
import LogIntake.Store.Connection

/-!
# Waiting for a store comes to an end

Whoever waits for a store asks again and again for its health. Every break between two questions
lasts for some time (`wait_pos`), so only three steps are possible before time has to pass, and when
the time is over nobody waits any longer. Hence there is a bound on the number of steps, whatever
the store answers (`isSome_await`).
-/

namespace LogIntake

namespace Call

variable {α : Type} {now : Nat} {alarms : List Nat}

/-- The earliest alarm is later than now, and no later than any other one that is. -/
theorem earliest_spec {t : Nat} (ht : t ∈ alarms) (hlater : now < t) :
    now < earliest now alarms ∧ earliest now alarms ≤ t := by
  have hmem : t ∈ alarms.filter (now < ·) := List.mem_filter.mpr ⟨ht, decide_eq_true hlater⟩
  obtain ⟨first, hfirst⟩ := Option.isSome_iff_exists.mp (List.isSome_min?_of_mem hmem)
  obtain ⟨hin, hle⟩ := List.min?_eq_some_iff.mp hfirst
  have hafter := of_decide_eq_true (List.mem_filter.mp hin).2
  rw [earliest, hfirst, Option.getD_some]
  exact ⟨hafter, hle t hmem⟩

end Call

namespace Store.Connection

/-- The delays that come one after another. -/
def delays : List UInt64 := [200, 400, 800, 1600, 3200, 5000]

theorem nextDelay_mem {delay : UInt64} (h : delay ∈ delays) : backoff.nextDelay delay ∈ delays := by
  -- The list itself is gone through, and not all words.
  have hall : (delays.all fun delay => delays.contains (backoff.nextDelay delay)) = true := by
    decide +kernel
  exact List.contains_iff_mem.mp (List.all_eq_true.mp hall delay h)

/-- Every break lasts for some time, whatever chance decides. -/
theorem wait_pos {delay : UInt64} (h : delay ∈ delays) (chance : Fin 50) :
    0 < Time.sleepFor (backoff.wait chance delay).toNat := by
  have hall : (delays.all fun delay => (List.finRange 50).all fun chance =>
      0 < Time.sleepFor (backoff.wait chance delay).toNat) = true := by decide +kernel
  have hdelay := List.all_eq_true.mp (List.all_eq_true.mp hall delay h) chance
  exact of_decide_eq_true (hdelay (List.mem_finRange chance))

/-- The number of steps that are possible before time has to pass. -/
def stepsNow (now : Nat) : Stage Unit → Nat
  | .resting till => if till ≤ now then 3 else 0
  | .ready => 2
  | .calling _ _ _ _ => 1

/-- What a step of waiting until a time comes to, where the next delay is one of those that come one
after another. -/
inductive Nears (till now : Nat) (c : Call Unit) : Progress Unit → Prop where
  | began {c' : Call Unit} (hdelay : c'.backoff.delay ∈ delays)
    (hsteps : stepsNow now c'.stage < stepsNow now c.stage) : Nears till now c (.began c')
  | moved {c' : Call Unit} (hdelay : c'.backoff.delay ∈ delays)
    (hsteps : stepsNow now c'.stage < stepsNow now c.stage) : Nears till now c (.moved c')
  | ended (r : Response Unit) : Nears till now c (.ended r)
  | blocked (hlater : now < till) : Nears till now c .blocked

variable {s : Config.Store} {timeout till now : Nat} {reply : Reply Unit} {c : Call Unit}

/-- The end of a question ends the wait or begins a break. -/
theorem nears_settle (hdelay : c.backoff.delay ∈ delays) {due : Nat} {response : Response Unit}
    {limit : Option Nat} {chance : Fin 50}
    (hcalling : c.stage = .calling due response limit chance) (r : Response Unit) :
    Nears till now c (c.settle backoff chance now r) := by
  cases r with
  | gives _ => exact .ended _
  | breaks => exact .ended _
  | fails f =>
    rw [Call.settle]
    split
    · split
      · rename_i delay next hleft
        obtain ⟨rfl, -, -⟩ := Backoff.afterFailure?_eq_some hleft
        have hnext : next.delay = backoff.nextDelay c.backoff.delay := by
          simp only [Backoff.afterFailure?] at hleft
          split at hleft
          · cases hleft
          · rw [← (Prod.mk.inj (Option.some.inj hleft)).2]
        have hpos := wait_pos hdelay chance
        refine .moved (hnext ▸ nextDelay_mem hdelay) ?_
        rw [hcalling, stepsNow, if_neg (by omega)]
        exact Nat.one_pos
      · exact .ended _
    · exact .ended _

/-- A question or a break that is not over waits. -/
theorem nears_or_blocked (hdelay : c.backoff.delay ∈ delays) (late : Fault)
    (reply : Unit → Reply Unit) : Nears till now c (c.step backoff none late reply now) ∨
      c.step backoff none late reply now = .blocked := by
  rw [Call.step]
  split
  · rename_i hready
    refine .inl (.began hdelay ?_)
    rw [hready, stepsNow, stepsNow]
    exact Nat.one_lt_two
  · rename_i due response limit chance hcalling
    split
    · exact .inl (nears_settle hdelay hcalling response)
    · split
      · split
        · exact .inl (nears_settle hdelay hcalling (.fails late))
        · exact .inr rfl
      · exact .inr rfl
  · rename_i till' hresting
    split
    · rename_i hover
      refine .inl (.moved hdelay ?_)
      rw [hresting, stepsNow, stepsNow, if_pos hover]
      exact Nat.lt_succ_self 2
    · exact .inr rfl

/-- Every step ends the wait, leaves fewer steps before time has to pass, or waits for a time that
has not come. -/
theorem nears_step (hdelay : c.backoff.delay ∈ delays) :
    Nears till now c (step s timeout till reply now c) := by
  have hstep : Nears till now c (c.step backoff none .queueFull (fun _ => reply) now) ∨ _ :=
    nears_or_blocked hdelay .queueFull fun _ => reply
  rw [step]
  split
  · split
    · exact .ended _
    · rename_i hlater
      exact .blocked (Nat.not_le.mp hlater)
  · rename_i hnot
    exact hstep.resolve_right fun heq => hnot heq

/-- The number of steps until a wait has ended: four for each millisecond that is left, and those
that are possible now. -/
def stepsLeft (till now : Nat) (c : Call Unit) : Nat :=
  4 * (till - now) + stepsNow now c.stage

theorem stepsNow_le (now : Nat) (stage : Stage Unit) : stepsNow now stage ≤ 3 := by
  cases stage with
  | resting till =>
    rw [stepsNow]
    split <;> omega
  | ready | calling => rw [stepsNow]; omega

variable {replies : Nat → Reply Unit} {times : List Nat}

/-- A wait ends, if enough steps are left. -/
theorem isSome_trace (hdelay : c.backoff.delay ∈ delays) {fuel : Nat}
    (hfuel : stepsLeft till now c < fuel) :
    (Call.trace (fun now c => step s timeout till (replies c.attempts.toNat) now c)
      (till :: ·.stage.alarms) now c times fuel).result.isSome = true := by
  induction fuel generalizing now c times with
  | zero => exact absurd hfuel (Nat.not_lt_zero _)
  | succ fuel ih =>
    have hnears : Nears till now c (step s timeout till (replies c.attempts.toNat) now c) :=
      nears_step hdelay
    rw [Call.trace]
    generalize step s timeout till (replies c.attempts.toNat) now c = p at hnears
    cases hnears with
    | began hdelay hsteps | moved hdelay hsteps =>
      refine ih hdelay ?_
      rw [stepsLeft] at hfuel ⊢
      omega
    | ended r => rfl
    | blocked hlater =>
      have hnext : now < Call.earliest now (till :: c.stage.alarms) ∧ _ :=
        Call.earliest_spec List.mem_cons_self hlater
      have hmost := stepsNow_le (Call.earliest now (till :: c.stage.alarms)) c.stage
      refine ih hdelay ?_
      rw [stepsLeft] at hfuel ⊢
      omega

/-- **A wait for a store comes to an end**, whatever the store answers. -/
theorem isSome_await (s : Config.Store) (timeout : Nat) (replies : Nat → Reply Unit) (now : Nat)
    {fuel : Nat} (hfuel : 4 * timeout + 2 < fuel) :
    (await s timeout replies now fuel).result.isSome = true := by
  have hdelay : (Call.start backoff : Call Unit).backoff.delay ∈ delays := List.mem_cons_self
  refine isSome_trace hdelay ?_
  have hleft : stepsLeft (now + timeout) now (Call.start backoff) = 4 * timeout + 2 := by
    rw [stepsLeft, Nat.add_sub_cancel_left]
    rfl
  rw [hleft]
  exact hfuel

/-! ### Questions that do not break -/

/-- Whether a question that is being asked does not break. -/
def IsFirm (c : Call Unit) : Prop :=
  ∀ due r limit chance, c.stage = .calling due r limit chance → r ≠ .breaks

variable (s timeout till now) in
theorem IsFirm.step (hc : IsFirm c) (hreply : reply.response ≠ .breaks) :
    (∀ c', step s timeout till reply now c = .began c' ∨
      step s timeout till reply now c = .moved c' → IsFirm c') ∧
      step s timeout till reply now c ≠ .ended .breaks := by
  have hgoes := Call.goes_step backoff none .queueFull (fun _ => reply) now c
  rw [Connection.step]
  generalize c.step backoff none .queueFull (fun _ => reply) now = p at hgoes
  cases hgoes with
  | begins hready =>
    refine ⟨?_, nofun⟩
    rintro c' (heq | heq)
    · obtain rfl := Progress.began.inj heq
      rintro due r limit chance hcalling
      obtain ⟨-, rfl, -⟩ := Stage.calling.inj hcalling
      exact hreply
    · cases heq
  | wakes | rests =>
    refine ⟨?_, nofun⟩
    rintro c' (heq | heq)
    · cases heq
    · obtain rfl := Progress.moved.inj heq
      exact nofun
  | ends hcalling hends _ =>
    refine ⟨nofun, fun heq => ?_⟩
    obtain rfl := Progress.ended.inj heq
    cases hends with
    | answered _ => exact hc _ _ _ _ hcalling rfl
  | waits _ =>
    dsimp only
    split
    · exact ⟨nofun, nofun⟩
    · exact ⟨nofun, nofun⟩

/-- A wait does not break if no question does. -/
theorem result_trace_ne_breaks (hreplies : ∀ n, (replies n).response ≠ .breaks) (hc : IsFirm c)
    (fuel : Nat) : (Call.trace (fun now c => step s timeout till (replies c.attempts.toNat) now c)
      (till :: ·.stage.alarms) now c times fuel).result ≠ some .breaks := by
  induction fuel generalizing now c times with
  | zero => exact nofun
  | succ fuel ih =>
    obtain ⟨hgoes, hends⟩ := hc.step s timeout till now (hreplies c.attempts.toNat)
    rw [Call.trace]
    split
    · rename_i c' hbegan
      exact ih (hgoes c' (.inl hbegan))
    · rename_i c' hmoved
      exact ih (hgoes c' (.inr hmoved))
    · rename_i r hended
      intro heq
      exact hends (hended.trans (congrArg Progress.ended (Option.some.inj heq)))
    · exact ih hc

theorem result_await_ne_breaks (s : Config.Store) (timeout : Nat)
    (hreplies : ∀ n, (replies n).response ≠ .breaks) (now fuel : Nat) :
    (await s timeout replies now fuel).result ≠ some .breaks := by
  refine result_trace_ne_breaks hreplies ?_ fuel
  intro due r limit chance hcalling
  cases hcalling

end Store.Connection

end LogIntake
