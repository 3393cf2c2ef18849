import LogIntake.Batch
import LogIntake.Time.Text

/-!
# Payloads

What the store keeps beside a vector is a **payload**: fields with values of the store's own,
whose integers have 64 bits with a sign. `Payload.ofEntry` is the payload of an entry. It keeps
the time twice, as a text and in milliseconds, and the metadata with their structure. An integer
that is too large for the store becomes a double.
-/

namespace LogIntake

/-- A value in a payload; an integer lies in `[-2 ^ 63, 2 ^ 63)`. -/
inductive Payload where
  | null
  | bool (b : Bool)
  | int (n : Int)
  | double (x : Number.Double)
  | text (s : String)
  | list (items : List Payload)
  | record (fields : List (String × Payload))
  deriving Repr, Inhabited

namespace Payload

/-- A number as an integer if it fits, and as a double otherwise. -/
def ofInt (n : Int) : Payload :=
  if -Number.signed64 ≤ n ∧ n < Number.signed64 then .int n else .double (.ofInt n)

mutual

/-- A JSON value as a value in a payload. -/
def ofJson : Json → Payload
  | .null => .null
  | .bool b => .bool b
  | .int n => ofInt n
  | .float x => .double x
  | .str s => .text s
  | .arr items => .list (ofItems items)
  | .obj fields => .record (ofFields fields)

/-- The items of an array as values in a payload. -/
def ofItems : List Json → List Payload
  | [] => []
  | v :: vs => ofJson v :: ofItems vs

/-- The fields of an object as fields of a payload. -/
def ofFields : List (String × Json) → List (String × Payload)
  | [] => []
  | (k, v) :: fs => (k, ofJson v) :: ofFields fs

end

/-- The payload of an entry. -/
def ofEntry (e : Entry) : List (String × Payload) :=
  [("message", .text e.message), ("metadata", .record (ofFields e.metadata)),
    ("source", .text e.source), ("timestamp", .text e.timestamp.rfc3339Millis),
    ("timestamp_ms", .int e.timestamp.millis)]

end Payload

end LogIntake
