import LogIntake.Entry.Basic
import LogIntake.Time.Text

/-!
# Timestamps of log lines

A timestamp is a JSON integer, which counts milliseconds since 1970, any other JSON number, which
counts seconds, or a string with a written time. Seconds are rounded to the nearest millisecond.
-/

namespace LogIntake

open Time (Instant)
open Number (Double)

/-- Why a field of a line is unusable. -/
inductive FieldProblem where
  | missing
  | notText
  | empty
  | notObject
  | outOfRange
  | notTime
  | notTimestamp
  deriving DecidableEq, Repr

/-- A message about a field, which names the field in quotation marks. -/
def FieldProblem.message (field : String) : FieldProblem → String
  | .missing => s!"missing field `{field}`"
  | .notText => s!"field `{field}` must be a string"
  | .empty => s!"field `{field}` must not be empty"
  | .notObject => s!"field `{field}` must be an object"
  | .outOfRange => s!"field `{field}` is out of range"
  | .notTime => s!"field `{field}` is not an RFC3339 / ISO-8601 timestamp"
  | .notTimestamp =>
    s!"field `{field}` must be epoch millis, epoch seconds or an RFC3339 string"

namespace Entry

/-- The instant a number of seconds after 1970, to the nearest millisecond. -/
def ofSeconds? (seconds : Double) : Option Instant :=
  match (Double.ofFloat (seconds.toFloat * 1000)).round? with
  | some ms => if ms.natAbs < Number.signed64 then Instant.ofMillis? ms else none
  | none => none

/-- The instant that a written time names: with an offset, or without one in UTC. -/
def ofWritten? (s : String) : Option Instant :=
  let cs := (Text.trim s).toList
  Instant.ofRfc3339? cs <|> Instant.ofLocal? cs

/-- The instant that a timestamp names. -/
def timestamp? : Json → Except FieldProblem Instant
  | .int n =>
    if n < Number.signed64 then
      match Instant.ofMillis? n with
      | some t => .ok t
      | none => .error .outOfRange
    else .error .outOfRange
  | .float x =>
    match ofSeconds? x with
    | some t => .ok t
    | none => .error .outOfRange
  | .str s =>
    match ofWritten? s with
    | some t => .ok t
    | none => .error .notTime
  | _ => .error .notTimestamp

end Entry

end LogIntake
