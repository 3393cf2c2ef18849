import LogIntake.Number.Word

/-!
# Steady time

The **steady clock** of a machine never goes back. It shows nanoseconds since some time before the
program was started, and its whole seconds are a word of 64 bits with a sign: there is no reading
beyond, so a reading with a duration added to it may not exist. Durations are in milliseconds.
-/

namespace LogIntake.Time

/-- The readings of the steady clock lie below this one. -/
def readingBound : Nat := Number.signed64 * 1000000000

/-- The reading when some time has passed after another one, if there is one. -/
def later? (reading duration : Nat) : Option Nat :=
  let r := reading + duration * 1000000
  if r < readingBound then some r else none

end LogIntake.Time
