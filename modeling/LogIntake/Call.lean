import LogIntake.Backoff
import LogIntake.Fault
import LogIntake.Time.Sleep

/-!
# Calls to backends

A call to a backend takes some time and then ends: it gives a value, it fails with a fault, or
it **breaks**, which ends the task that made it. A **call** in the sense of this module repeats a
failed attempt as its backoff allows as long as the fault may pass, and may give every attempt a
time limit.

`Call.step` is one step of a call at a time on the clock. It does not wait: where only time can
help it says `blocked`, and `Stage.alarms` says at which times a step is possible again. What a
backend answers becomes visible only in such a step, so an answer that is there when the call is
looked at counts even if the limit has passed by then.
-/

namespace LogIntake

/-- How an attempt ends. -/
inductive Response (α : Type) where
  | gives (a : α)
  | fails (f : Fault)
  | breaks

/-- What a backend does with one attempt: how it ends, and after how long. Chance decides what is
waited if the call goes on after it. -/
structure Reply (α : Type) where
  delay : Nat
  response : Response α
  chance : Fin 50

/-- A response after a delay; where it matters, chance decides for the shortest wait. -/
def Reply.after {α : Type} (delay : Nat) (response : Response α) : Reply α :=
  ⟨delay, response, 0⟩

/-- Where a call stands. -/
inductive Stage (α : Type) where
  /-- An attempt is about to be made. -/
  | ready
  /-- An attempt ends at a time, and must end until another one if there is a limit. -/
  | calling (due : Nat) (response : Response α) (limit : Option Nat) (chance : Fin 50)
  /-- The next attempt is made at a time. -/
  | resting (till : Nat)

/-- The times at which something happens at a stage by itself. -/
def Stage.alarms {α : Type} : Stage α → List Nat
  | .ready => []
  | .calling due _ limit _ => due :: limit.toList
  | .resting till => [till]

/-- A call with its attempts so far. -/
structure Call (α : Type) where
  stage : Stage α
  backoff : Backoff.State
  /-- The number of attempts made. -/
  attempts : UInt32

/-- What a step of a call comes to. -/
inductive Progress (α : Type) where
  /-- An attempt was made. -/
  | began (c : Call α)
  /-- The call went on to another stage without an attempt. -/
  | moved (c : Call α)
  | ended (r : Response α)
  | blocked

namespace Call

variable {α : Type}

/-- A call before its first attempt. -/
def start (b : Backoff) : Call α := ⟨.ready, b.start, 0⟩

/-- The step that follows the end of an attempt: the call ends too, unless the attempt failed
with a fault that may pass and another attempt is left. -/
def settle (b : Backoff) (chance : Fin 50) (now : Nat) (c : Call α) : Response α → Progress α
  | .gives a => .ended (.gives a)
  | .breaks => .ended .breaks
  | .fails f =>
    if f.isTransient then
      match b.afterFailure? c.backoff with
      | some (delay, s) =>
        let wait := Time.sleepFor (b.wait chance delay).toNat
        .moved { c with stage := .resting (now + wait), backoff := s }
      | none => .ended (.fails f)
    else .ended (.fails f)

/-- One step of a call. An attempt made now is answered with `reply ()`, which is looked at only
then; an attempt takes at most `limit`, if there is one, and fails with `late` otherwise. -/
def step (b : Backoff) (limit : Option Nat) (late : Fault) (reply : Unit → Reply α) (now : Nat)
    (c : Call α) : Progress α :=
  match c.stage with
  | .ready =>
    let reply := reply ()
    .began { c with
      stage :=
        .calling (now + reply.delay) reply.response (limit.map (now + ·)) reply.chance
      attempts := c.attempts + 1 }
  | .calling due response limit chance =>
    if due ≤ now then c.settle b chance now response
    else
      match limit with
      | some l => if l ≤ now then c.settle b chance now (.fails late) else .blocked
      | none => .blocked
  | .resting till => if till ≤ now then .moved { c with stage := .ready } else .blocked

/-! ### A call alone -/

/-- How a call alone on a clock went: how it ended, if it did within the steps it was given, the
times of its attempts, and the time after. -/
structure Trace (α : Type) where
  result : Option (Response α)
  attempts : List Nat
  time : Nat

/-- The earliest of some times after a time, or that time if there is none. -/
def earliest (now : Nat) (alarms : List Nat) : Nat :=
  ((alarms.filter (now < ·)).min?).getD now

/-- Makes a call alone on a clock, which goes on to the next alarm whenever the call is blocked.
A step is taken by `step`; `times` are those of the earlier attempts, last one first. Takes at most
`fuel` steps. -/
def trace (step : (now : Nat) → Call α → Progress α) (alarms : Call α → List Nat)
    (now : Nat) (c : Call α) (times : List Nat) : (fuel : Nat) → Trace α
  | 0 => ⟨none, times.reverse, now⟩
  | fuel + 1 =>
    match step now c with
    | .began c => trace step alarms now c (now :: times) fuel
    | .moved c => trace step alarms now c times fuel
    | .ended r => ⟨some r, times.reverse, now⟩
    | .blocked => trace step alarms (earliest now (alarms c)) c times fuel

end Call

end LogIntake
