import LogIntake.Config.Service
import LogIntake.Pipeline.Schedule
import LogIntake.Service.Ingest

/-!
# Routes

The service takes log lines, and answers whether it is alive, whether it is ready, and what it
has counted. Paths are exact. A route has one method; where it is `GET` a `HEAD` request gets the
same answer without a body.

A body that is larger than allowed is refused before it is looked at, and such a request is not
counted. The announced length counts too, and a body may not be longer than announced. Where the
method is wrong as well, the answer says so with the method that is allowed. Announced lengths are
looked at where log lines are taken in and where there is no route.
-/

namespace LogIntake.Service

open Pipeline (Schedule)

/-- What the service answers. -/
inductive Route where
  | ingest
  | health
  | ready
  | metrics
  | stats
  deriving DecidableEq, Repr

/-- The route of a path. -/
def Route.ofPath? : String → Option Route
  | "/ingest" | "/api/v1/logs" => some .ingest
  | "/health" | "/healthz" => some .health
  | "/ready" | "/readyz" => some .ready
  | "/metrics" => some .metrics
  | "/stats" => some .stats
  | _ => none

/-- What an instance answers with. -/
structure App where
  identity : Config.Identity
  maxBodyBytes : Nat
  /-- Whether somebody collects the exported series. -/
  exports : Bool

namespace App

/-- The answer to the question whether the service is alive. -/
def health (a : App) : Response :=
  .json 200 (.obj [("status", .str "healthy"), ("name", .str a.identity.name),
    ("version", .str a.identity.version)])

/-- The answer to the question whether the service is ready: it is while the store answers and
the pipeline takes entries. -/
def ready (fault : Option Fault) (accepting : Bool) : Response :=
  let isReady := fault.isNone && accepting
  let store := match fault with
    | none => "ok"
    | some f => "error: " ++ f.message
  .json (if isReady then 200 else 503) (.obj [
    ("status", .str (if isReady then "ready" else "not_ready")),
    ("checks", .obj [("vector_store", .str store),
      ("pipeline", .str (if accepting then "accepting" else "closed"))])])

/-- The totals as JSON. -/
def totalsJson (t : Totals) : Json :=
  .obj [("requests", .nat t.requests.toNat), ("records_accepted", .nat t.recordsAccepted.toNat),
    ("records_rejected", .nat t.recordsRejected.toNat),
    ("embedding_failures", .nat t.embeddingFailures.toNat),
    ("duplicates_suppressed", .nat t.duplicatesSuppressed.toNat),
    ("batches_flushed", .nat t.batchesFlushed.toNat),
    ("records_stored", .nat t.recordsStored.toNat),
    ("batches_dropped", .nat t.batchesDropped.toNat),
    ("records_dropped", .nat t.recordsDropped.toNat),
    ("storage_retries", .nat t.storageRetries.toNat)]

/-- The answer to the question for the exported series. It is empty where nobody collects them. -/
def metricsText (a : App) (x : Exported) : Response :=
  .text 200 "text/plain; version=0.0.4" (if a.exports then x.text else "")

/-- The length that a request announces. -/
def announced? (r : Request) : Option Nat := do
  let v ← r.header? "content-length"
  match Config.readNat Number.word64 v with
  | .ok n => some n
  | .error _ => none

/-- The refusal of a body that is announced to be too large, if it is. -/
def announcedTooLarge? (a : App) (r : Request) : Option Response :=
  if (announced? r).any (· > a.maxBodyBytes) then some (.plain 413 "length limit exceeded")
  else none

/-- The refusal of a body that is or is announced to be too large, if it is. -/
def tooLarge? (a : App) (r : Request) : Option Response :=
  a.announcedTooLarge? r <|>
    if r.body.length > min a.maxBodyBytes ((announced? r).getD a.maxBodyBytes) then
      some (.plain 413 "Failed to buffer the request body: length limit exceeded")
    else none

/-- The refusal of a method. -/
def wrongMethod (allow : String) : Response :=
  { Response.bare 405 with allow := some allow }

/-- Adds events to the counts. -/
def count (s : Schedule) (events : List Event) : Schedule :=
  { s with world := events.foldl Pipeline.World.count s.world }

/-- Takes in the lines of a body. -/
def ingest (s : Schedule) (body : List UInt8) : Response × Schedule :=
  let (t, s) := Tally.ofReading Schedule.offer s (Reading.ofBody body)
  (t.response, count s t.counted)

/-- The answer to a `GET` request; `none` where the store broke. -/
def get (a : App) (s : Schedule) : Route → Option Response × Schedule
  | .ingest => (none, s)
  | .health => (some a.health, s)
  | .ready =>
    match s.check with
    | (.gives _, s) => (some (ready none s.world.accepting), s)
    | (.fails f, s) => (some (ready (some f) s.world.accepting), s)
    | (.breaks, s) => (none, s)
  | .metrics => (some (a.metricsText s.world.metrics.exported), s)
  | .stats => (some (.json 200 (totalsJson s.world.metrics.totals)), s)

/-- The answer to a request; `none` where a backend broke. -/
def handle (a : App) (s : Schedule) (r : Request) : Option Response × Schedule :=
  match Route.ofPath? r.path with
  | none => (some ((a.announcedTooLarge? r).getD (.bare 404)), s)
  | some .ingest =>
    if r.method = "POST" then
      match a.tooLarge? r with
      | some refusal => (some refusal, s)
      | none =>
        let (response, s) := ingest s r.body
        (some response, s)
    else
      let refusal := { (a.announcedTooLarge? r).getD (.bare 405) with allow := some "POST" }
      (some (if r.method = "HEAD" then refusal.headOnly else refusal), s)
  | some route =>
    if r.method = "GET" then a.get s route
    else if r.method = "HEAD" then
      let (response, s) := a.get s route
      (response.map Response.headOnly, s)
    else (some (wrongMethod "GET,HEAD"), s)

end App

end LogIntake.Service
