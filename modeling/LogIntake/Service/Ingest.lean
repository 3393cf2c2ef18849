import LogIntake.Entry.Line
import LogIntake.Metrics
import LogIntake.Service.Http

/-!
# Taking in a body of log lines

Every line of a body that is not blank is either **accepted**, which means that its entry has
entered a queue, or **rejected** with a fault. Entries are offered in the order of their lines.
When an offer is refused the entries after it are rejected with the same fault without being
offered, so one request waits in vain at most once.

The answer counts both kinds of lines and names the first hundred faults that were found, in the
order of the lines.
-/

namespace LogIntake.Service

/-- The number of faults that an answer names. -/
def maxReported : Nat := 100

/-- A fault in an answer, with the line that it is about, if it is about one. -/
structure Rejection where
  line : Option Nat
  kind : String
  reason : String
  deriving DecidableEq, Repr

/-- The rejection of a line for a fault. -/
def Rejection.of (line : Option Nat) (f : Fault) : Rejection :=
  ⟨line, f.label, f.message⟩

/-- What has become of the lines of a body so far. -/
structure Tally where
  accepted : Nat := 0
  rejected : Nat := 0
  /-- The fault that no further entry is offered after. -/
  halted : Option Fault := none
  /-- The rejections that are named, in the order in which they were found. -/
  rejections : List Rejection := []
  /-- The events to count, last one first. -/
  events : List Event := []
  deriving DecidableEq, Repr

namespace Tally

/-- Rejects a line for a fault. -/
def reject (t : Tally) (line : Option Nat) (f : Fault) : Tally :=
  { t with
    rejected := t.rejected + 1
    events := .recordRejected f.label :: t.events
    rejections :=
      if t.rejections.length < maxReported then t.rejections ++ [.of line f] else t.rejections }

/-- The fault that stands for a refusal and that the entries after it are rejected with. -/
def haltOf : Fault → Fault
  | .closed => .closed
  | _ => .queueFull

/-- Offers the entry of a line, unless an offer was refused before. -/
def take {σ : Type} (offer : σ → Entry → Except Fault Unit × σ) (t : Tally) (s : σ)
    (line : Nat) (e : Entry) : Tally × σ :=
  match t.halted with
  | some f => (t.reject (some line) f, s)
  | none =>
    match offer s e with
    | (.ok _, s) => ({ t with accepted := t.accepted + 1 }, s)
    | (.error f, s) => ({ t.reject (some line) f with halted := some (haltOf f) }, s)

/-- What becomes of the entries of a body. -/
def takeAll {σ : Type} (offer : σ → Entry → Except Fault Unit × σ) (t : Tally) (s : σ) :
    List (Nat × Entry) → Tally × σ
  | [] => (t, s)
  | (line, e) :: rest =>
    let (t, s) := t.take offer s line e
    takeAll offer t s rest

/-- What becomes of the lines of a body. -/
def ofReading {σ : Type} (offer : σ → Entry → Except Fault Unit × σ) (s : σ) (r : Reading) :
    Tally × σ :=
  takeAll offer (r.faults.foldl (fun t f => t.reject f.line? f) {}) s r.entries

/-- How a request is answered. -/
def outcome (t : Tally) : RequestOutcome :=
  if 0 < t.accepted then
    if t.rejected = 0 then .accepted else .partly
  else
    match t.halted with
    | some .closed => .closing
    | some _ => .backpressure
    | none => .malformed

/-- The rejection of a body without lines. -/
def nothing : Rejection :=
  ⟨none, "empty_body", "request body contains no records"⟩

/-- The place of a rejection in the order of lines; one without a line comes first. -/
def place (r : Rejection) : Nat :=
  match r.line with
  | none => 0
  | some n => n + 1

/-- The rejections in an answer, in the order of their lines. -/
def reported (t : Tally) : List Rejection :=
  let all := if t.accepted = 0 ∧ t.rejected = 0 then t.rejections ++ [nothing] else t.rejections
  all.mergeSort fun a b => place a ≤ place b

/-- The events that a request adds to the counts, in order. -/
def counted (t : Tally) : List Event :=
  t.events.reverse ++ [.request t.outcome, .recordsAccepted (UInt64.ofNat t.accepted)]

/-- A rejection as JSON. -/
def rejectionJson (r : Rejection) : Json :=
  .obj [("line", match r.line with | some n => .nat n | none => .null),
    ("kind", .str r.kind), ("reason", .str r.reason)]

/-- The status of an answer. -/
def status : RequestOutcome → Nat
  | .accepted => 202
  | .partly => 207
  | .backpressure | .closing => 503
  | .malformed => 400

/-- The answer to a request. -/
def response (t : Tally) : Response :=
  let answer := Response.json (status t.outcome) (.obj [
    ("status", .str t.outcome.label), ("accepted", .nat t.accepted),
    ("rejected", .nat t.rejected), ("errors", .arr (t.reported.map rejectionJson))])
  if t.outcome = .backpressure then { answer with retryAfter := some "1" } else answer

/-- What becomes of the lines of a body when there is room for all entries. -/
def ofBody (body : List UInt8) : Tally :=
  (ofReading (fun _ _ => (.ok (), ())) () (Reading.ofBody body)).1

end Tally

end LogIntake.Service
