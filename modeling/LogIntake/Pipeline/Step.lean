import LogIntake.Pipeline.World

/-!
# Steps of the pipeline

What can happen next in a world: a worker or a producer goes one step further, a producer offers
an entry, the pipeline is closed or told to stop, or time passes. A step of a worker is `none`
where only something else can help it.

A worker looks first at the deadline, then at the age of its batch, and then at what it is
waiting for; it does so also while an entry is being embedded, but while a batch is being
written it looks only at the deadline and at the write.
-/

namespace LogIntake.Pipeline.World

/-! ### Leaving -/

/-- Counts everything that a worker still holds as lost, and stops it. -/
def abandon (w : World) (i : Nat) (k : Worker) : World :=
  let w := if k.pending.isEmpty then w
    else w.count (.batchDropped (UInt64.ofNat k.pending.size))
  let w := w.count (.recordsDropped (UInt64.ofNat k.queue.length))
  { w with
    workers := w.workers.set i (k.leave .stopped)
    offers := refuseWaiting i w.offers }

/-- Ends a worker whose backend broke; what it held is not counted. -/
def breakDown (w : World) (i : Nat) (k : Worker) : World :=
  { w with
    workers := w.workers.set i (k.leave .broken)
    offers := refuseWaiting i w.offers }

/-! ### Writing batches -/

/-- What follows a batch, or takes its place where no point waits. -/
def proceed (w : World) (i : Nat) (k : Worker) : Next → World
  | .resume => w.setWorker i { k with phase := .idle }
  | .embed item call => w.setWorker i { k with phase := .embedding item call }
  | .finish => w.setWorker i { k with phase := .stopped }

/-- Takes the points that wait and starts to write them. -/
def flush (w : World) (i : Nat) (k : Worker) (next : Next) : World :=
  match k.pending.take with
  | (none, pending) => w.proceed i { k with pending } next
  | (some batch, pending) =>
    w.setWorker i { k with
      pending, phase := .writing batch (Call.start w.settings.flushRetry) next }

/-- The windows of a worker without what is too old, by one reading of the finer clock. -/
def expireWindows (w : World) (k : Worker) : World × Worker :=
  ({ w with readings := w.readings + 1 }, { k with dedup := k.dedup.expire w.fineNow })

/-- Gives up a batch at the deadline, and with it an entry that was being embedded. -/
def giveUpWrite (w : World) (i : Nat) (k : Worker) (batch : Batch) (next : Next) : World :=
  let w := w.count (.batchDropped (UInt64.ofNat batch.length))
  let (w, k) := w.expireWindows k
  let w := match next with
    | .embed _ _ => w.count (.recordsDropped 1)
    | _ => w
  w.abandon i k

/-- Ends a write and goes on. -/
def endWrite (w : World) (i : Nat) (k : Worker) (next : Next) (e : Event) : World :=
  let (w, k) := (w.count e).expireWindows k
  w.proceed i k next

/-- A step of a worker that is writing a batch. -/
def stepWriting (w : World) (i : Nat) (k : Worker) (batch : Batch) (call : Call Unit)
    (next : Next) : Option World :=
  if w.isOver then some (w.giveUpWrite i k batch next)
  else
    let reply := w.backend.insert w.writes.length
    match call.step w.settings.flushRetry none .queueFull (fun _ => reply) w.now with
    | .began call =>
      let w := if 1 < call.attempts then w.count .storageRetry else w
      let w := { w with writes := ⟨w.now, batch, reply.response⟩ :: w.writes }
      some (w.setWorker i { k with phase := .writing batch call next })
    | .moved call => some (w.setWorker i { k with phase := .writing batch call next })
    | .ended (.gives _) =>
      some (w.endWrite i k next (.batchFlushed (UInt64.ofNat batch.length)))
    | .ended (.fails _) =>
      some (w.endWrite i k next (.batchDropped (UInt64.ofNat batch.length)))
    | .ended .breaks => some (w.breakDown i k)
    | .blocked => none

/-! ### Embedding entries -/

/-- Goes on with the embedding of an entry: drops the entry if it is a near-duplicate, or else
adds its point to the batch. -/
def keep (w : World) (i : Nat) (k : Worker) (item : Item) (v : Embedding) : World :=
  let (decision, dedup) := k.dedup.consider item.entry.source v w.fineNow
  let w := { w with readings := w.readings + 1 }
  let k := { k with dedup, phase := .idle }
  match decision with
  | .suppress => (w.count .duplicateSuppressed).setWorker i k
  | .accept =>
    let k := { k with pending := k.pending.push ⟨item.id, item.entry, v⟩ w.now }
    if k.pending.isFull then w.flush i k .resume else w.setWorker i k

/-- A step of a worker that is having an entry embedded. -/
def stepEmbedding (w : World) (i : Nat) (k : Worker) (item : Item) (call : Call Embedding) :
    Option World :=
  if w.isOver then some ((w.count (.recordsDropped 1)).abandon i k)
  else if w.isDue k.pending.deadline? then some (w.flush i k (.embed item call))
  else
    let text := item.entry.message
    match w.client.step text (fun _ => w.embeddingReply text) w.now call with
    | .began call =>
      let w := { w with asked := ⟨w.now, item⟩ :: w.asked }
      some (w.setWorker i { k with phase := .embedding item call })
    | .moved call => some (w.setWorker i { k with phase := .embedding item call })
    | .ended (.gives v) => some (w.keep i k item v)
    | .ended (.fails _) =>
      some ((w.count .embeddingFailure).setWorker i { k with phase := .idle })
    | .ended .breaks => some (w.breakDown i k)
    | .blocked => none

/-! ### Taking entries -/

/-- A step of a worker that is doing nothing else. When its queue is empty and no producer is
left it writes what waits and stops. -/
def stepIdle (w : World) (i : Nat) (k : Worker) : Option World :=
  if w.isOver then some (w.abandon i k)
  else if w.isDue k.pending.deadline? then some (w.flush i k .resume)
  else
    match k.queue with
    | item :: queue =>
      let k := { k with queue, phase := .embedding item w.client.start }
      some { w with workers := w.workers.set i k, offers := grant i w.offers }
    | [] =>
      if w.accepting || w.offers.any (isWaitingFor i) then none else some (w.flush i k .finish)

/-- A step of a worker. -/
def work (w : World) (i : Nat) : Option World := do
  let k ← w.workers[i]?
  match k.phase with
  | .idle => w.stepIdle i k
  | .embedding item call => w.stepEmbedding i k item call
  | .writing batch call next => w.stepWriting i k batch call next
  | .stopped | .broken => none

/-! ### Producers -/

/-- Puts an entry into the queue of a worker, under the next number. -/
def enter (w : World) (i : Nat) (k : Worker) (e : Entry) : World :=
  { w with
    workers := w.workers.set i { k with queue := k.queue ++ [⟨w.entered, e⟩] }
    entered := w.entered + 1 }

/-- Offers an entry: it enters its queue at once if there is room, waits if there is none, and
is refused if the pipeline takes no more entries. -/
def offer (w : World) (e : Entry) : World :=
  let i := workerOf e.source w.workers.length
  let made (w : World) (state : OfferState) : World :=
    { w with offers := w.offers ++ [⟨e, i, state⟩] }
  match w.workers[i]? with
  | none => made w (.refused .closed)
  | some k =>
    if !w.accepting || k.isGone then made w (.refused .closed)
    else if w.hasRoom i k then made (w.enter i k e) (.accepted w.entered)
    else made w (.waiting (w.now + w.settings.enqueueTimeout) false)

/-- A step of the producer of a waiting offer: it uses the room it was granted, or gives up when
it has waited long enough. -/
def settle (w : World) (ticket : Nat) : Option World := do
  let o ← w.offers[ticket]?
  match o.state with
  | .waiting till granted =>
    if granted then
      let k ← w.workers[o.worker]?
      let offers := w.offers.set ticket { o with state := .accepted w.entered }
      pure { w.enter o.worker k o.entry with offers }
    else if till ≤ w.now then
      pure { w with offers := w.offers.set ticket { o with state := .refused .queueFull } }
    else none
  | _ => none

/-! ### Stopping -/

/-- Takes no more entries. -/
def close (w : World) : World :=
  { w with accepting := false }

/-- Takes no more entries, and gives the workers a deadline. -/
def stop (w : World) : World :=
  { w.close with deadline := some (w.now + w.settings.shutdownTimeout) }

/-! ### Time -/

/-- The times at which a worker can go on by itself. -/
def workerAlarms (w : World) (k : Worker) : List Nat :=
  match k.phase with
  | .idle => w.deadline.toList ++ k.pending.deadline?.toList
  | .embedding _ call =>
    w.deadline.toList ++ k.pending.deadline?.toList ++ call.stage.alarms
  | .writing _ call _ => w.deadline.toList ++ call.stage.alarms
  | .stopped | .broken => []

/-- The time at which the producer of an offer gives up. -/
def offerAlarms (o : Offer) : List Nat :=
  match o.state with
  | .waiting till _ => [till]
  | _ => []

/-- All times at which something can happen by itself. -/
def alarms (w : World) : List Nat :=
  w.workers.flatMap w.workerAlarms ++ w.offers.flatMap offerAlarms

/-- Whether nothing can happen before time passes. -/
def isQuiet (w : World) : Bool :=
  (List.range w.workers.length).all (fun i => (w.work i).isNone) &&
    (List.range w.offers.length).all fun t => (w.settle t).isNone

end World

/-! ### Runs -/

/-- What can happen. -/
inductive Action where
  | work (worker : Nat)
  | offer (e : Entry)
  | settle (ticket : Nat)
  | close
  | stop
  /-- Time passes, by at least a millisecond. -/
  | wait (till : Nat)
  deriving DecidableEq, Repr

/-- The world after something has happened; `none` where it cannot. -/
def World.apply (w : World) : Action → Option World
  | .work i => w.work i
  | .offer e => some (w.offer e)
  | .settle ticket => w.settle ticket
  | .close => some w.close
  | .stop => if w.deadline.isSome then none else some w.stop
  | .wait till => if w.now < till then some { w with now := till } else none

/-- Whether something happens **promptly**: time passes only when nothing else can happen, and
not past a time at which something could. -/
def World.allows (w : World) : Action → Bool
  | .wait till => w.isQuiet && w.alarms.all fun t => t ≤ w.now || till ≤ t
  | _ => true

/-- The worlds that can come about from a world. -/
inductive Reaches (w : World) : World → Prop where
  | refl : Reaches w w
  | step {v u : World} (a : Action) : Reaches w v → v.apply a = some u → Reaches w u

/-- The worlds that can come about from a world if everything happens promptly. -/
inductive ReachesPromptly (w : World) : World → Prop where
  | refl : ReachesPromptly w w
  | step {v u : World} (a : Action) :
    ReachesPromptly w v → v.allows a → v.apply a = some u → ReachesPromptly w u

end LogIntake.Pipeline
