import LogIntake.Batch
import LogIntake.Embedding.Client
import LogIntake.Metrics
import LogIntake.Pipeline.Settings
import LogIntake.Text.SipHash

/-!
# State of the pipeline

The **pipeline** takes entries from producers and brings them into the store. Each source
belongs to one **worker**, which takes the entries of its queue one by one: it has an entry
embedded, drops it if it is a near-duplicate, and collects the others in a batch, which it
writes to the store.

A **world** is everything that the pipeline and those around it can see at one moment: the
clock, the workers, what producers have offered, the counts, and what the backends were asked.
An entry gets a number when it enters its queue, and its point is stored under that number.

The clock counts milliseconds. Windows of embeddings are kept by a second, finer clock, which
counts nanoseconds and is not tied to the first one; what it shows is given reading by reading.
-/

namespace LogIntake.Pipeline

/-- What the pipeline depends on: what backends do with each call, and what the finer clock
shows. -/
structure Backend where
  /-- The answer to an attempt to embed a text, after attempts for earlier texts, last one
  first. -/
  embed : (earlier : List String) → (text : String) → Reply Embedding
  /-- The answer to the `n`-th attempt to write a batch. -/
  insert : Nat → Reply Unit
  /-- The answer to the `n`-th health check of the store. -/
  check : Nat → Reply Unit
  /-- The `n`-th reading of the finer clock. -/
  clock : Nat → Nat := id

/-- An entry in the pipeline, under its number. -/
structure Item where
  id : Nat
  entry : Entry
  deriving DecidableEq, Repr

/-- What a worker goes on with after a batch. -/
inductive Next where
  /-- Take the next entry. -/
  | resume
  /-- Go on with an entry that is being embedded. -/
  | embed (item : Item) (call : Call Embedding)
  /-- Stop, as no entry can come any more. -/
  | finish

/-- What a worker is doing. -/
inductive Phase where
  | idle
  | embedding (item : Item) (call : Call Embedding)
  | writing (batch : Batch) (call : Call Unit) (next : Next)
  | stopped
  /-- A backend broke, and the worker with it. -/
  | broken

/-- A worker with its queue, the windows of its streams and the points of its next batch. -/
structure Worker where
  queue : List Item
  dedup : Deduplicator
  pending : Accumulator Point
  phase : Phase

/-- How far a producer has come with an entry. -/
inductive OfferState where
  /-- Waiting for room in a queue until a time; the room may have been granted already. -/
  | waiting (till : Nat) (granted : Bool)
  | accepted (id : Nat)
  | refused (f : Fault)
  deriving DecidableEq, Repr

/-- An entry that a producer has offered, and the worker it is for. -/
structure Offer where
  entry : Entry
  worker : Nat
  state : OfferState
  deriving DecidableEq, Repr

/-- An attempt to embed an entry. -/
structure Asked where
  time : Nat
  item : Item
  deriving DecidableEq, Repr

/-- An attempt to write a batch, and how it ends. -/
structure Write where
  time : Nat
  batch : Batch
  response : Response Unit

/-- The pipeline and what is around it. -/
structure World where
  settings : Settings
  client : Client
  backend : Backend
  now : Nat
  /-- The number of readings of the finer clock. -/
  readings : Nat
  workers : List Worker
  /-- All offers, in the order in which they were made. -/
  offers : List Offer
  /-- The number of entries that have entered a queue. -/
  entered : Nat
  accepting : Bool
  /-- When the workers must have stopped, once that is known. -/
  deadline : Option Nat
  metrics : Metrics
  /-- All attempts to embed, last one first. -/
  asked : List Asked
  /-- All attempts to write, last one first. -/
  writes : List Write
  /-- The number of health checks of the store. -/
  checks : Nat

namespace Worker

/-- Nanoseconds in a millisecond. -/
def nanosPerMilli : Nat := 1000000

/-- A worker that has not seen any entry. -/
def start (s : Settings) : Worker where
  queue := []
  dedup := .empty { s.dedup with maxAge := s.dedup.maxAge * nanosPerMilli }
  pending := .empty s.maxBatchSize s.maxBatchAge
  phase := .idle

/-- Whether a worker takes no more entries. -/
def isGone (k : Worker) : Bool :=
  match k.phase with
  | .stopped | .broken => true
  | _ => false

/-- A worker that has given up everything it held. -/
def leave (k : Worker) (phase : Phase) : Worker :=
  { k with queue := [], pending := k.pending.cleared, phase }

end Worker

/-- The worker that a source belongs to. -/
def workerOf (source : String) (workers : Nat) : Nat :=
  (Text.SipHash.hashText source % UInt64.ofNat workers).toNat

namespace World

/-- The world in which a pipeline has just been started. -/
def start (s : Settings) (c : Client) (b : Backend) : World where
  settings := s
  client := c
  backend := b
  now := 0
  readings := 0
  workers := List.replicate s.workers (.start s)
  offers := []
  entered := 0
  accepting := true
  deadline := none
  metrics := {}
  asked := []
  writes := []
  checks := 0

/-- Starts a pipeline. It fails with settings that are refused, and breaks where its queues cannot
be made or no room can be kept for its batches. -/
def launch (s : Settings) (c : Client) (b : Backend) : Response World :=
  match s.check with
  | .error f => .fails f
  | .ok _ => if s.fits then .gives (.start s c b) else .breaks

/-- Counts an event. -/
def count (w : World) (e : Event) : World :=
  { w with metrics := w.metrics.add e }

/-- Replaces a worker. -/
def setWorker (w : World) (i : Nat) (k : Worker) : World :=
  { w with workers := w.workers.set i k }

/-- Whether the workers must stop. -/
def isOver (w : World) : Bool :=
  match w.deadline with
  | some d => d ≤ w.now
  | none => false

/-- Whether all workers have stopped or broken. -/
def isDone (w : World) : Bool :=
  w.workers.all Worker.isGone

/-- Whether a time, if there is one, has come. -/
def isDue (w : World) (t : Option Nat) : Bool :=
  match t with
  | some t => t ≤ w.now
  | none => false

/-- The texts of all attempts to embed, last one first. -/
def askedTexts (w : World) : List String :=
  w.asked.map fun a => a.item.entry.message

/-- What the finer clock shows when it is read now. -/
def fineNow (w : World) : Nat :=
  w.backend.clock w.readings

/-- What the provider does with an attempt to embed a text that is made now. -/
def embeddingReply (w : World) (text : String) : Reply Embedding :=
  w.backend.embed w.askedTexts text

/-! ### Room in the queues -/

/-- Whether an offer is waiting for a worker. -/
def isWaitingFor (i : Nat) (o : Offer) : Bool :=
  o.worker == i && match o.state with
    | .waiting _ _ => true
    | _ => false

/-- Whether an offer has been granted room in the queue of a worker, which it has not used. -/
def isGrantedBy (i : Nat) (o : Offer) : Bool :=
  o.worker == i && match o.state with
    | .waiting _ granted => granted
    | _ => false

/-- Whether the queue of a worker has room that is not granted to anyone. -/
def hasRoom (w : World) (i : Nat) (k : Worker) : Bool :=
  k.queue.length + w.offers.countP (isGrantedBy i) < w.settings.queueCapacityPerWorker

/-- Grants room to the first offer that is waiting for a worker without having been granted
any. -/
def grantFirst (i : Nat) : List Offer → List Offer
  | [] => []
  | o :: rest =>
    match o.state with
    | .waiting till false =>
      if o.worker = i then { o with state := .waiting till true } :: rest
      else o :: grantFirst i rest
    | _ => o :: grantFirst i rest

/-- Grants room to the first offer that is waiting for a worker, if there is one. -/
def grant (i : Nat) (offers : List Offer) : List Offer :=
  if offers.any (isWaitingFor i) then grantFirst i offers else offers

/-- Refuses all offers that are waiting for a worker. -/
def refuseWaiting (i : Nat) (offers : List Offer) : List Offer :=
  offers.map fun o => if isWaitingFor i o then { o with state := .refused .closed } else o

end World

end LogIntake.Pipeline
