import LogIntake.Proofs.Call
import Mathlib.Tactic.ByContra

/-!
# Attempts to embed a text

A client asks for the embedding of a text until an attempt ends in a way that is not worth another
one, or no attempt is left. What an attempt ends in is its **outcome**: what the provider replies,
or a fault that may pass where the reply comes too late. `Client.Tries` says which attempts are
made, by the outcomes alone, and `Client.embed_spec` that exactly these are made, one after the
other, and that the client reports what it makes of the last one. It holds of every sequence of
replies, as long as the repetitions can be counted.
-/

namespace LogIntake

/-- Whether a response is a fault that may pass. -/
def Response.isTransient {α : Type} : Response α → Bool
  | .fails f => f.isTransient
  | .gives _ | .breaks => false

namespace Call

variable {α : Type} {step : Nat → Call α → Progress α} {alarms : Call α → List Nat} {now : Nat}
  {c c' : Call α}

theorem trace_began (h : step now c = .began c') (times : List Nat) (fuel : Nat) :
    trace step alarms now c times (fuel + 1) = trace step alarms now c' (now :: times) fuel := by
  rw [trace, h]

theorem trace_moved (h : step now c = .moved c') (times : List Nat) (fuel : Nat) :
    trace step alarms now c times (fuel + 1) = trace step alarms now c' times fuel := by
  rw [trace, h]

theorem trace_ended {r : Response α} (h : step now c = .ended r) (times : List Nat) (fuel : Nat) :
    trace step alarms now c times (fuel + 1) = ⟨some r, times.reverse, now⟩ := by
  rw [trace, h]

theorem trace_blocked {t : Nat} (h : step now c = .blocked) (ht : earliest now (alarms c) = t)
    (times : List Nat) (fuel : Nat) :
    trace step alarms now c times (fuel + 1) = trace step alarms t c times fuel := by
  rw [trace, h, ← ht]

/-- Attempts that were made stay the first ones. -/
theorem exists_attempts_append (step : Nat → Call α → Progress α) (alarms : Call α → List Nat)
    (now : Nat) (c : Call α) (times : List Nat) (fuel : Nat) :
    ∃ later, (trace step alarms now c times fuel).attempts = times.reverse ++ later := by
  induction fuel generalizing now c times with
  | zero => exact ⟨[], (List.append_nil _).symm⟩
  | succ fuel ih =>
    rw [trace]
    split
    · rename_i c' _
      obtain ⟨later, hlater⟩ := ih now c' (now :: times)
      exact ⟨now :: later, by rw [hlater, List.reverse_cons, List.append_assoc]; rfl⟩
    · exact ih _ _ _
    · exact ⟨[], (List.append_nil _).symm⟩
    · exact ih _ _ _

end Call

namespace Client

/-- What an attempt ends in. -/
def outcome (c : Client) (r : Reply Embedding) : Response Embedding :=
  if r.delay ≤ c.timeout then r.response else .fails c.lateFault

/-- How long an attempt takes. -/
def lasting (c : Client) (r : Reply Embedding) : Nat :=
  min r.delay c.timeout

/-- What the client makes of the outcome of the last of some attempts. -/
def verdict (c : Client) (attempts : UInt32) : Response Embedding → Response Embedding
  | .gives v => c.checkLength v
  | .fails f => .fails (report attempts f)
  | .breaks => .breaks

/-- A step of a client whose provider answers an attempt after `n` others with `reply n`. -/
def stepAlone (c : Client) (text : String) (reply : Nat → Reply Embedding) (now : Nat)
    (call : Call Embedding) : Progress Embedding :=
  c.step text (fun _ => reply call.attempts.toNat) now call

variable {c : Client} {text : String} {reply : Nat → Reply Embedding} {now : Nat}

/-! ### One attempt -/

/-- A blank text ends the call before any attempt. -/
theorem embed_blank (c : Client) (reply : Nat → Reply Embedding) (now fuel : Nat)
    (h : Text.isBlankText text) :
    c.embed text reply now (fuel + 1) = ⟨some (.fails blankText), [], now⟩ := by
  have hstep : c.stepAlone text reply now c.start = .ended (.fails blankText) := if_pos ⟨rfl, h⟩
  exact Call.trace_ended hstep [] fuel

/-- Of a text that is not blank, a client embeds as a call does, and judges what the call ends
with. -/
theorem stepAlone_eq (h : ¬ Text.isBlankText text) (call : Call Embedding) :
    c.stepAlone text reply now call =
      match call.step c.retry (some c.timeout) c.lateFault (fun _ => reply call.attempts.toNat)
        now with
      | .ended r => .ended (c.verdict call.attempts r)
      | p => p := by
  rw [stepAlone, step, if_neg fun hblank => h hblank.2]
  generalize call.step c.retry _ _ _ now = p
  cases p with
  | ended r => cases r <;> rfl
  | began c' => rfl
  | moved c' => rfl
  | blocked => rfl

variable {s s' : Backoff.State} {a : UInt32} {o : Response Embedding}

/-- A call ends with an outcome that is not worth another attempt, and with any outcome where no
attempt is left. -/
theorem settle_ended {chance : Fin 50} {stage : Stage Embedding}
    (h : o.isTransient → c.retry.afterFailure? s = none) :
    Call.settle c.retry chance now ⟨stage, s, a⟩ o = .ended o := by
  cases o with
  | gives v => rfl
  | breaks => rfl
  | fails f =>
    rw [Call.settle]
    split
    · rename_i htransient
      rw [h htransient]
    · rfl

/-- A call that may be repeated rests until later. -/
theorem settle_moved (now : Nat) (chance : Fin 50) (stage : Stage Embedding) (a : UInt32)
    {delay : UInt64} (h : o.isTransient) (hleft : c.retry.afterFailure? s = some (delay, s')) :
    ∃ till, now ≤ till ∧
      Call.settle c.retry chance now ⟨stage, s, a⟩ o = .moved ⟨.resting till, s', a⟩ := by
  cases o with
  | gives v => cases h
  | breaks => cases h
  | fails f =>
    have htransient : f.isTransient := h
    refine ⟨now + Time.sleepFor (c.retry.wait chance delay).toNat, Nat.le_add_right _ _, ?_⟩
    rw [Call.settle, if_pos htransient, hleft]

/-- An attempt that is answered in time with a reply, or is given up. -/
abbrev calling (c : Client) (now : Nat) (r : Reply Embedding) : Stage Embedding :=
  .calling (now + r.delay) r.response (some (now + c.timeout)) r.chance

/-- The first attempt after some others is made at once. -/
theorem stepAlone_ready (h : ¬ Text.isBlankText text) :
    c.stepAlone text reply now ⟨.ready, s, a⟩ =
      .began ⟨c.calling now (reply a.toNat), s, a + 1⟩ := by
  rw [stepAlone_eq h]
  rfl

/-- A text that is not blank is put to the provider at once. -/
theorem exists_attempts_embed (c : Client) (h : ¬ Text.isBlankText text)
    (reply : Nat → Reply Embedding) (now fuel : Nat) :
    ∃ later, (c.embed text reply now (fuel + 1)).attempts = now :: later := by
  have hbegan : c.embed text reply now (fuel + 1) =
      Call.trace (c.stepAlone text reply) (·.stage.alarms) now
        ⟨c.calling now (reply 0), c.retry.start, 1⟩ [now] fuel :=
    Call.trace_began (stepAlone_ready h) [] fuel
  rw [hbegan]
  exact Call.exists_attempts_append _ _ now _ [now] fuel

/-- An attempt goes on as long as it lasts. -/
theorem stepAlone_calling_of_lt (h : ¬ Text.isBlankText text) {r : Reply Embedding}
    (hlasts : 0 < c.lasting r) :
    c.stepAlone text reply now ⟨c.calling now r, s, a⟩ = .blocked := by
  obtain ⟨hdelay, htimeout⟩ := Nat.lt_min.mp hlasts
  rw [stepAlone_eq h, Call.step]
  dsimp only
  rw [if_neg (Nat.not_le.mpr (Nat.lt_add_of_pos_right hdelay)),
    if_neg (Nat.not_le.mpr (Nat.lt_add_of_pos_right htimeout))]

/-- The next thing that happens to it is its end. -/
theorem earliest_calling {r : Reply Embedding} (hlasts : 0 < c.lasting r) :
    Call.earliest now (c.calling now r).alarms = now + c.lasting r := by
  obtain ⟨hdelay, htimeout⟩ := Nat.lt_min.mp hlasts
  have hmin : min (now + r.delay) (now + c.timeout) = now + c.lasting r :=
    Nat.add_min_add_left _ _ _
  simp [Stage.alarms, Call.earliest, hdelay, htimeout, hmin]

/-- Then it is settled by its outcome. -/
theorem stepAlone_calling (h : ¬ Text.isBlankText text) (r : Reply Embedding) :
    c.stepAlone text reply (now + c.lasting r) ⟨c.calling now r, s, a⟩ =
      match Call.settle c.retry r.chance (now + c.lasting r) ⟨c.calling now r, s, a⟩
        (c.outcome r) with
      | .ended o => .ended (c.verdict a o)
      | p => p := by
  have hstep : Call.step c.retry (some c.timeout) c.lateFault (fun _ => reply a.toNat)
      (now + c.lasting r) ⟨c.calling now r, s, a⟩ =
        Call.settle c.retry r.chance (now + c.lasting r) ⟨c.calling now r, s, a⟩
          (c.outcome r) := by
    rw [Call.step]
    dsimp only
    by_cases hintime : r.delay ≤ c.timeout
    · have hlasts : c.lasting r = r.delay := Nat.min_eq_left hintime
      rw [outcome, if_pos hintime, hlasts, if_pos (Nat.le_refl _)]
    · have hlate : c.timeout < r.delay := Nat.not_le.mp hintime
      have hlasts : c.lasting r = c.timeout := Nat.min_eq_right (Nat.le_of_lt hlate)
      have hdue : ¬ now + r.delay ≤ now + c.timeout := by omega
      rw [outcome, if_neg hintime, hlasts, if_neg hdue, if_pos (Nat.le_refl _)]
  rw [stepAlone_eq h, hstep]

/-- A rest goes on until it is over. -/
theorem stepAlone_resting (h : ¬ Text.isBlankText text) (till : Nat) :
    c.stepAlone text reply now ⟨.resting till, s, a⟩ =
      if till ≤ now then .moved ⟨.ready, s, a⟩ else .blocked := by
  rw [stepAlone_eq h, Call.step]
  dsimp only
  by_cases hover : till ≤ now
  · rw [if_pos hover]
  · rw [if_neg hover]

/-! ### Stages of a trace -/

/-- The trace of a client from a stage on. -/
abbrev traceAt (c : Client) (text : String) (reply : Nat → Reply Embedding) (now : Nat)
    (call : Call Embedding) (times : List Nat) (fuel : Nat) : Call.Trace Embedding :=
  Call.trace (c.stepAlone text reply) (·.stage.alarms) now call times fuel

/-- An attempt is made, and lasts until its outcome. -/
theorem traceAt_ready (c : Client) (h : ¬ Text.isBlankText text) (reply : Nat → Reply Embedding)
    (now : Nat) (s : Backoff.State) (a : UInt32) (times : List Nat) (fuel : Nat) :
    ∃ fuel', fuel ≤ fuel' ∧
      c.traceAt text reply now ⟨.ready, s, a⟩ times (fuel + 2) =
        c.traceAt text reply (now + c.lasting (reply a.toNat))
          ⟨c.calling now (reply a.toNat), s, a + 1⟩ (now :: times) fuel' := by
  have hbegan : c.traceAt text reply now ⟨.ready, s, a⟩ times (fuel + 2) =
      c.traceAt text reply now ⟨c.calling now (reply a.toNat), s, a + 1⟩ (now :: times)
        (fuel + 1) :=
    Call.trace_began (stepAlone_ready h) times (fuel + 1)
  obtain hzero | hpos := Nat.eq_zero_or_pos (c.lasting (reply a.toNat))
  · exact ⟨fuel + 1, Nat.le_succ fuel, by rw [hzero]; exact hbegan⟩
  · exact ⟨fuel, Nat.le_refl fuel, hbegan.trans (Call.trace_blocked
      (stepAlone_calling_of_lt h hpos) (earliest_calling hpos) (now :: times) fuel)⟩

/-- A rest lasts until its end, and then the next attempt can be made. -/
theorem traceAt_resting (c : Client) (h : ¬ Text.isBlankText text)
    (reply : Nat → Reply Embedding) (s : Backoff.State) (a : UInt32) {till : Nat}
    (htill : now ≤ till) (times : List Nat) (fuel : Nat) : ∃ fuel', fuel ≤ fuel' ∧
      c.traceAt text reply now ⟨.resting till, s, a⟩ times (fuel + 2) =
        c.traceAt text reply till ⟨.ready, s, a⟩ times fuel' := by
  have hover : c.stepAlone text reply till ⟨.resting till, s, a⟩ = .moved ⟨.ready, s, a⟩ :=
    (stepAlone_resting h till).trans (if_pos (Nat.le_refl till))
  obtain rfl | hlt := Nat.eq_or_lt_of_le htill
  · exact ⟨fuel + 1, Nat.le_succ fuel, Call.trace_moved hover times (fuel + 1)⟩
  · have hblocked : c.stepAlone text reply now ⟨.resting till, s, a⟩ = .blocked :=
      (stepAlone_resting h till).trans (if_neg (Nat.not_le.mpr hlt))
    have halarm : Call.earliest now (Stage.alarms (.resting till : Stage Embedding)) = till := by
      simp [Stage.alarms, Call.earliest, hlt]
    exact ⟨fuel, Nat.le_refl fuel, (Call.trace_blocked hblocked halarm times (fuel + 1)).trans
      (Call.trace_moved hover times fuel)⟩

/-- The last attempt ends the call. -/
theorem traceAt_last (h : ¬ Text.isBlankText text) (now : Nat)
    (ho : c.outcome (reply a.toNat) = o) (hlast : o.isTransient → c.retry.afterFailure? s = none)
    (times : List Nat) (fuel : Nat) :
    c.traceAt text reply now ⟨.ready, s, a⟩ times (fuel + 3) =
      ⟨some (c.verdict (a + 1) o), (now :: times).reverse, now + c.lasting (reply a.toNat)⟩ := by
  obtain ⟨fuel', hfuel, hready⟩ := traceAt_ready c h reply now s a times (fuel + 1)
  obtain ⟨g, rfl⟩ : ∃ g, fuel' = g + 1 := ⟨fuel' - 1, by omega⟩
  have hended : c.stepAlone text reply (now + c.lasting (reply a.toNat))
      ⟨c.calling now (reply a.toNat), s, a + 1⟩ = .ended (c.verdict (a + 1) o) := by
    rw [stepAlone_calling h, ho, settle_ended hlast]
  exact hready.trans (Call.trace_ended hended (now :: times) g)

/-- An attempt that may be repeated leads to the next one, after it has ended. -/
theorem traceAt_again (h : ¬ Text.isBlankText text) (now : Nat) {delay : UInt64}
    (htransient : (c.outcome (reply a.toNat)).isTransient)
    (hleft : c.retry.afterFailure? s = some (delay, s')) (times : List Nat) (fuel : Nat) :
    ∃ till fuel', now + c.lasting (reply a.toNat) ≤ till ∧ fuel ≤ fuel' ∧
      c.traceAt text reply now ⟨.ready, s, a⟩ times (fuel + 5) =
        c.traceAt text reply till ⟨.ready, s', a + 1⟩ (now :: times) fuel' := by
  obtain ⟨fuel', hfuel, hready⟩ := traceAt_ready c h reply now s a times (fuel + 3)
  obtain ⟨g, rfl⟩ : ∃ g, fuel' = g + 3 := ⟨fuel' - 3, by omega⟩
  obtain ⟨till, htill, hsettle⟩ := settle_moved (now + c.lasting (reply a.toNat))
    (reply a.toNat).chance (c.calling now (reply a.toNat)) (a + 1) htransient hleft
  have hmoved : c.stepAlone text reply (now + c.lasting (reply a.toNat))
      ⟨c.calling now (reply a.toNat), s, a + 1⟩ = .moved ⟨.resting till, s', a + 1⟩ := by
    rw [stepAlone_calling h, hsettle]
  obtain ⟨fuel'', hfuel', hresting⟩ := traceAt_resting c h reply s' (a + 1) htill (now :: times) g
  exact ⟨till, fuel'', htill, by omega,
    hready.trans ((Call.trace_moved hmoved (now :: times) (g + 2)).trans hresting)⟩

/-! ### Which attempts are made -/

/-- Of the attempts from the `n`-th on, those before the `k`-th are made: each but the last one
failed in a way that may pass, and the last one did not or used up the budget. -/
structure Tries (c : Client) (reply : Nat → Reply Embedding) (n k : Nat) : Prop where
  lt : n < k
  le : k ≤ c.retry.maxRetries.toNat + 1
  retried : ∀ i, n ≤ i → i + 1 < k → (c.outcome (reply i)).isTransient
  last : k = c.retry.maxRetries.toNat + 1 ∨ ¬ (c.outcome (reply (k - 1))).isTransient

/-- An attempt is made exactly where the budget reaches to it and all before it failed in a way that
may pass. -/
theorem Tries.lt_iff {n k m : Nat} (h : c.Tries reply n k) :
    m < k ↔ m ≤ c.retry.maxRetries.toNat ∧
      ∀ i, n ≤ i → i < m → (c.outcome (reply i)).isTransient := by
  have hle := h.le
  constructor
  · intro hlt
    exact ⟨by omega, fun i hi him => h.retried i hi (by omega)⟩
  · rintro ⟨hbudget, hall⟩
    by_contra hge
    obtain hlast | hlast := h.last
    · omega
    · have hlt := h.lt
      exact hlast (hall (k - 1) (by omega) (by omega))

/-- The times of attempts from the `n`-th on, none of which begins before the one before it has
ended. -/
def Spaced (c : Client) (reply : Nat → Reply Embedding) : Nat → List Nat → Prop
  | n, t :: u :: times => t + c.lasting (reply n) ≤ u ∧ Spaced c reply (n + 1) (u :: times)
  | _, _ => True

/-- How a client embeds a text from the `n`-th attempt on, which it makes at a time, after attempts
at some times, last one first: the attempts that it makes, and what it reports. -/
structure Goes (c : Client) (reply : Nat → Reply Embedding) (n now : Nat) (times : List Nat)
    (tr : Call.Trace Embedding) (k : Nat) : Prop where
  tries : c.Tries reply n k
  result : tr.result = some (c.verdict (UInt32.ofNat k) (c.outcome (reply (k - 1))))
  attempts : ∃ later, tr.attempts = times.reverse ++ now :: later ∧ n + later.length + 1 = k ∧
    c.Spaced reply n (now :: later)

/-- From the first attempt on, the attempts that are made are all attempts. -/
theorem Goes.length_attempts {k : Nat} {tr : Call.Trace Embedding}
    (h : c.Goes reply 0 now [] tr k) : tr.attempts.length = k := by
  obtain ⟨later, hattempts, hlength, -⟩ := h.attempts
  rw [hattempts, List.reverse_nil, List.nil_append, List.length_cons]
  omega

/-- The last attempt goes alone. -/
theorem goes_last {n : Nat} (hle : n ≤ c.retry.maxRetries.toNat)
    (hlast : n = c.retry.maxRetries.toNat ∨ ¬ (c.outcome (reply n)).isTransient)
    (times : List Nat) (t : Nat) :
    c.Goes reply n now times ⟨some (c.verdict (UInt32.ofNat (n + 1)) (c.outcome (reply n))),
      (now :: times).reverse, t⟩ (n + 1) where
  tries := {
    lt := Nat.lt_succ_self n
    le := Nat.succ_le_succ hle
    retried := fun i hi hlt => absurd hi (by omega)
    last := hlast.imp (congrArg (· + 1)) id }
  result := rfl
  attempts := ⟨[], by rw [List.reverse_cons], rfl, trivial⟩

/-- An attempt that is repeated goes before the others. -/
theorem Goes.cons {n k till : Nat} {times : List Nat} {tr : Call.Trace Embedding}
    (h : c.Goes reply (n + 1) till (now :: times) tr k)
    (htransient : (c.outcome (reply n)).isTransient)
    (htill : now + c.lasting (reply n) ≤ till) : c.Goes reply n now times tr k where
  tries := {
    lt := Nat.lt_of_succ_lt h.tries.lt
    le := h.tries.le
    retried := fun i hi hlt => by
      obtain rfl | hlater := Nat.eq_or_lt_of_le hi
      · exact htransient
      · exact h.tries.retried i hlater hlt
    last := h.tries.last }
  result := h.result
  attempts := by
    obtain ⟨later, hattempts, hlength, hspaced⟩ := h.attempts
    refine ⟨till :: later, ?_, by rw [List.length_cons]; omega, htill, hspaced⟩
    rw [hattempts, List.reverse_cons, List.append_assoc, List.singleton_append]

/-- The attempts that are left are made, each in five steps or less. -/
theorem exists_goes (h : ¬ Text.isBlankText text) (hmax : c.retry.IsFinite)
    {left n : Nat} (hleft : n + left = c.retry.maxRetries.toNat) (hs : s.failures.toNat = n)
    (times : List Nat) {fuel : Nat} (hfuel : 5 * (left + 1) ≤ fuel) :
    ∃ k, c.Goes reply n now times
      (c.traceAt text reply now ⟨.ready, s, UInt32.ofNat n⟩ times fuel) k := by
  induction left generalizing n s now times fuel with
  | zero =>
    have hcount : (UInt32.ofNat n).toNat = n := Backoff.toNat_ofNat_attempts hmax (by omega)
    have hnone : c.retry.afterFailure? s = none := Backoff.afterFailure?_of_eq hmax (by omega)
    obtain ⟨g, rfl⟩ : ∃ g, fuel = g + 3 := ⟨fuel - 3, by omega⟩
    refine ⟨n + 1, ?_⟩
    rw [traceAt_last h now rfl (fun _ => hnone), hcount, ← UInt32.ofNat_one, ← UInt32.ofNat_add]
    exact goes_last (by omega) (.inl (by omega)) times _
  | succ left ih =>
    have hcount : (UInt32.ofNat n).toNat = n := Backoff.toNat_ofNat_attempts hmax (by omega)
    obtain ⟨g, rfl⟩ : ∃ g, fuel = g + 5 := ⟨fuel - 5, by omega⟩
    by_cases htransient : (c.outcome (reply n)).isTransient
    · have hwithin : s.failures ≤ c.retry.maxRetries := UInt32.le_iff_toNat_le.mpr (by omega)
      have hsucc := Backoff.toNat_failures_add_one hmax hwithin
      have hsome : c.retry.afterFailure? s =
          some (s.delay, ⟨s.failures + 1, c.retry.nextDelay s.delay⟩) :=
        Backoff.afterFailure?_of_lt hmax (by omega)
      have htransient' : (c.outcome (reply (UInt32.ofNat n).toNat)).isTransient := by
        rw [hcount]
        exact htransient
      obtain ⟨till, fuel', htill, hfuel', hagain⟩ := traceAt_again h now htransient' hsome times g
      have hfailed : (s.failures + 1).toNat = n + 1 := by omega
      obtain ⟨k, hk⟩ : ∃ k, c.Goes reply (n + 1) till (now :: times)
          (c.traceAt text reply till
            ⟨.ready, ⟨s.failures + 1, c.retry.nextDelay s.delay⟩, UInt32.ofNat (n + 1)⟩
            (now :: times) fuel') k :=
        ih (by omega) hfailed (now :: times) (by omega)
      rw [hcount] at htill
      refine ⟨k, ?_⟩
      rw [hagain, ← UInt32.ofNat_one, ← UInt32.ofNat_add]
      exact hk.cons htransient htill
    · refine ⟨n + 1, ?_⟩
      have hlast : (c.outcome (reply (UInt32.ofNat n).toNat)).isTransient →
          c.retry.afterFailure? s = none := by
        rw [hcount]
        exact fun ho => absurd ho htransient
      rw [traceAt_last h now rfl hlast times (g + 2), hcount, ← UInt32.ofNat_one,
        ← UInt32.ofNat_add]
      exact goes_last (by omega) (.inr htransient) times _

/-- How a client embeds a text that is not blank, whatever the provider replies: it makes the
attempts that its outcomes ask for, one after another, and reports what it makes of the last
one. -/
theorem embed_spec (h : ¬ Text.isBlankText text) (hmax : c.retry.IsFinite)
    (reply : Nat → Reply Embedding) (now : Nat) {fuel : Nat}
    (hfuel : 5 * (c.retry.maxRetries.toNat + 1) ≤ fuel) :
    ∃ k, c.Goes reply 0 now [] (c.embed text reply now fuel) k :=
  exists_goes h hmax (Nat.zero_add _) rfl [] hfuel

end Client

end LogIntake
