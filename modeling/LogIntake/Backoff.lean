import LogIntake.Number.Double
import LogIntake.Time.Sleep

/-!
# Backoff

A call that failed is repeated after a **delay**, which grows from one repetition to the next by
a factor up to a bound. The first delay is taken as it is. What is waited is the delay itself or,
with jitter, a part of it that chance decides: from half of it up to 99 hundredths.

`Backoff.State` is what lies between two calls: how many have failed and the delay that comes
next. It counts in 32 bits, as the settings do.
-/

namespace LogIntake

/-- How often and how fast failed calls are repeated; delays are in milliseconds. -/
structure Backoff where
  maxRetries : UInt32
  initialDelay : UInt64
  maxDelay : UInt64
  multiplier : Number.Double
  jitter : Bool
  deriving DecidableEq, Repr

namespace Backoff

/-- The double two. -/
def two : Number.Double := ⟨0x4000000000000000⟩

/-- Three repetitions, 100 ms after the first failure and twice as long after each further one,
up to 5 s. -/
def standard : Backoff := ⟨3, 100, 5000, two, true⟩

/-- The number of calls that may be made, the first one included. -/
def maxAttempts (b : Backoff) : UInt32 :=
  if b.maxRetries = 0xFFFFFFFF then b.maxRetries else b.maxRetries + 1

/-- The delay after a delay: its multiple in double precision, cut down to an integer, and at
most the bound. -/
def nextDelay (b : Backoff) (delay : UInt64) : UInt64 :=
  let product := (Number.Double.ofNat delay.toNat).toFloat * b.multiplier.toFloat
  min (Number.Double.ofFloat product).toCount b.maxDelay

/-- What is waited for a delay: with jitter, a half and `chance` hundredths of it in double
precision, cut down to an integer. -/
def wait (b : Backoff) (chance : Fin 50) (delay : UInt64) : UInt64 :=
  if b.jitter then
    let part := Float.ofNat chance / 100 + 0.5
    (Number.Double.ofFloat ((Number.Double.ofNat delay.toNat).toFloat * part)).toCount
  else delay

/-- What is kept between two calls. -/
structure State where
  /-- The number of calls that have failed. -/
  failures : UInt32
  /-- The delay before the next repetition. -/
  delay : UInt64
  deriving DecidableEq, Repr

/-- The state before the first call. -/
def start (b : Backoff) : State := ⟨0, b.initialDelay⟩

/-- What follows a failure that may pass: the delay before the next call and the state after
it; `none` when no call is left. -/
def afterFailure? (b : Backoff) (s : State) : Option (UInt64 × State) :=
  let failures := s.failures + 1
  if b.maxRetries < failures then none
  else some (s.delay, ⟨failures, b.nextDelay s.delay⟩)

/-- What became of a call and its repetitions. -/
structure Outcome (ε α : Type) where
  result : Except ε α
  /-- The delays before each repetition, in order. -/
  delays : List UInt64

/-- The number of calls. -/
def Outcome.attempts {ε α : Type} (o : Outcome ε α) : Nat :=
  o.delays.length + 1

/-- What is waited before each repetition, in order; `chance n` decides after `n` others. -/
def Outcome.waits {ε α : Type} (b : Backoff) (chance : Nat → Fin 50) (o : Outcome ε α) :
    List UInt64 :=
  o.delays.mapIdx fun n delay => b.wait (chance n) delay

/-- The times of calls, the first of which is made now, from what is waited between them. -/
def callTimes (now : Nat) : List UInt64 → List Nat
  | [] => [now]
  | wait :: waits => now :: callTimes (now + Time.sleepFor wait.toNat) waits

/-- Calls until a call succeeds, fails in a way that `mayPass` does not hold of, or is the last
one allowed. Call `n` has the result `results n`; `delays` are those before it, last one first. At
most `fuel` calls are made, and `none` says that they did not suffice. -/
def run? {ε α : Type} (b : Backoff) (mayPass : ε → Bool) (results : Nat → Except ε α) :
    (fuel : Nat) → (n : Nat) → State → (delays : List UInt64) → Option (Outcome ε α)
  | 0, _, _, _ => none
  | fuel + 1, n, s, delays =>
    match results n with
    | .ok a => some ⟨.ok a, delays.reverse⟩
    | .error e =>
      if mayPass e then
        match b.afterFailure? s with
        | none => some ⟨.error e, delays.reverse⟩
        | some (delay, s) => run? b mayPass results fuel (n + 1) s (delay :: delays)
      else some ⟨.error e, delays.reverse⟩

/-- Calls as `run?` does, with fuel for every call that the settings allow. -/
def run {ε α : Type} (b : Backoff) (mayPass : ε → Bool) (results : Nat → Except ε α) :
    Option (Outcome ε α) :=
  b.run? mayPass results (b.maxRetries.toNat + 1) 0 b.start []

end Backoff

end LogIntake
