/-!
# Sleep

Whoever waits for a **duration** sleeps. No sleep lasts longer than thirty years of 365 days; who
wants to sleep longer wakes after that time. Waiting for a point in time has no such bound.
Durations are in milliseconds.
-/

namespace LogIntake.Time

/-- The longest sleep. -/
def longestSleep : Nat := 946080000000

/-- How long a sleep lasts that was meant to last some time. -/
def sleepFor (duration : Nat) : Nat :=
  min duration longestSleep

end LogIntake.Time
