import LogIntake.Time.Calendar

/-!
# Instants

An **instant** is a count of whole seconds since 1970-01-01T00:00:00Z and of nanoseconds within
the second. In a leap second the seconds stand still and the nanoseconds go on past `10 ^ 9`, so
in milliseconds it counts as the second that follows.

Instants are supported from the first second of the year -262143 to the last one of the year
262142. `Instant.truncate` drops what is below a millisecond; the leap second at the very end of
the range has no whole millisecond in range and stays as it is.
-/

namespace LogIntake.Time

/-- A point in time in UTC. -/
structure Instant where
  seconds : Int
  nanos : Nat
  deriving DecidableEq, Repr, Inhabited

/-- A date with a time of day; second 60 is a leap second. -/
structure Civil where
  date : Date
  hour : Nat
  minute : Nat
  second : Nat
  nanos : Nat
  deriving DecidableEq, Repr

namespace Instant

/-- The first supported second. -/
def minSeconds : Int := -8334601228800

/-- The last supported second. -/
def maxSeconds : Int := 8210266876799

/-- The instant of a supported second; `none` out of range. -/
def ofSeconds? (seconds : Int) (nanos : Nat) : Option Instant :=
  if minSeconds ≤ seconds ∧ seconds ≤ maxSeconds then some ⟨seconds, nanos⟩ else none

/-- The instant of a second and of nanoseconds within it, which only the last second of a minute
may have more than `10 ^ 9` of, and never twice as many; `none` out of range. -/
def ofParts? (seconds : Int) (nanos : Nat) : Option Instant :=
  if nanos < 1000000000 ∨ (nanos < 2000000000 ∧ seconds % 60 = 59) then ofSeconds? seconds nanos
  else none

/-- The instant of a count of milliseconds since 1970; `none` out of range. -/
def ofMillis? (ms : Int) : Option Instant :=
  ofSeconds? (ms / 1000) ((ms % 1000).toNat * 1000000)

/-- Milliseconds since 1970, rounded down. -/
def millis (t : Instant) : Int :=
  t.seconds * 1000 + (t.nanos / 1000000 : Nat)

/-- The greatest whole millisecond that is not after an instant, where it is in range. -/
def truncate (t : Instant) : Instant :=
  (ofMillis? t.millis).getD t

/-- The instant at which clocks that are `offset` seconds ahead of UTC show a date and time;
`none` when the date or time does not exist or is out of range. -/
def ofCivil? (c : Civil) (offset : Int) : Option Instant :=
  if c.date.exists? && -262143 ≤ c.date.year && c.date.year ≤ 262142 &&
      c.hour < 24 && c.minute < 60 && c.second ≤ 60 then
    let second := min c.second 59
    let nanos := if c.second = 60 then 1000000000 + c.nanos else c.nanos
    let shown := c.date.dayNumber * 86400 + (c.hour * 3600 + c.minute * 60 + second : Nat)
    ofSeconds? (shown - offset) nanos
  else none

/-- The date and time that clocks in UTC show at an instant. -/
def toCivil (t : Instant) : Civil :=
  let day := t.seconds / 86400
  let s := (t.seconds % 86400).toNat
  let leap := 1000000000 ≤ t.nanos
  { date := .ofDayNumber day
    hour := s / 3600
    minute := s / 60 % 60
    second := if leap then s % 60 + 1 else s % 60
    nanos := if leap then t.nanos - 1000000000 else t.nanos }

end Instant

end LogIntake.Time
