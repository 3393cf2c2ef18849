import LogIntake.Json.Value
import LogIntake.Time.Instant

/-!
# Log entries

A **log entry** is one message with its time, its source and further data. The source says where
the message came from; entries of one source form a **stream**, which keeps its order and is
searched for duplicates on its own. `Entry.ofInstant` cuts the time down to a millisecond, so
encodings of one instant that differ below it give equal entries.
-/

namespace LogIntake

open Time (Instant)

/-- One message of a log. -/
structure Entry where
  timestamp : Instant
  message : String
  source : String
  metadata : Json.Fields
  deriving DecidableEq, Repr, Inhabited

/-- The entry of a message at an instant, which is cut down to a millisecond. -/
def Entry.ofInstant (t : Instant) (message source : String) (metadata : Json.Fields) : Entry :=
  ⟨t.truncate, message, source, metadata⟩

end LogIntake
