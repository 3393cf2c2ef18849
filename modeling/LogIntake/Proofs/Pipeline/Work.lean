import LogIntake.Pipeline.Step

/-!
# What a worker can do

`World.work` is taken apart once and for all: `World.Works` lists what a worker can do, each time
with what the world must be like for it and with the world after it, and `World.works_of_work`
says that the list is complete. Whatever is to be shown of all steps of a worker is shown by cases
on `World.Works`, without a look at how a step is computed.

On the way each step is brought into one form: a worker is replaced, and what is counted, asked
or written is added to the world around it (`World.flush_eq`, `World.giveUpWrite_eq`,
`World.endWrite_eq`).
-/

namespace LogIntake.Pipeline

namespace Worker

/-- A worker that goes on after a batch. -/
def proceed (k : Worker) : Next → Worker
  | .resume => { k with phase := .idle }
  | .embed item call => { k with phase := .embedding item call }
  | .finish => { k with phase := .stopped }

/-- A worker that takes out the points that wait and starts to write them, if there are any. -/
def flush (b : Backoff) (k : Worker) (next : Next) : Worker :=
  if k.pending.isEmpty then { k with pending := k.pending.cleared }.proceed next
  else
    { k with
      pending := k.pending.cleared
      phase := .writing k.pending.pending (Call.start b) next }

@[simp] theorem queue_proceed (k : Worker) (next : Next) : (k.proceed next).queue = k.queue := by
  cases next <;> rfl

@[simp] theorem dedup_proceed (k : Worker) (next : Next) : (k.proceed next).dedup = k.dedup := by
  cases next <;> rfl

@[simp] theorem pending_proceed (k : Worker) (next : Next) :
    (k.proceed next).pending = k.pending := by
  cases next <;> rfl

@[simp] theorem queue_flush (b : Backoff) (k : Worker) (next : Next) :
    (k.flush b next).queue = k.queue := by
  rw [flush]
  split
  · rw [queue_proceed]
  · rfl

@[simp] theorem dedup_flush (b : Backoff) (k : Worker) (next : Next) :
    (k.flush b next).dedup = k.dedup := by
  rw [flush]
  split
  · rw [dedup_proceed]
  · rfl

@[simp] theorem pending_flush (b : Backoff) (k : Worker) (next : Next) :
    (k.flush b next).pending = k.pending.cleared := by
  rw [flush]
  split
  · rw [pending_proceed]
  · rfl

/-- A worker that adds an entry with its embedding to the points that wait. -/
def collect (k : Worker) (dedup : Deduplicator) (item : Item) (v : Embedding) (now : Nat) :
    Worker :=
  { k with dedup, phase := .idle, pending := k.pending.push ⟨item.id, item.entry, v⟩ now }

/-- The events that count the queue and the points that wait as lost. -/
def abandoned (k : Worker) : List Event :=
  if k.pending.isEmpty then [.recordsDropped (UInt64.ofNat k.queue.length)]
  else [.batchDropped (UInt64.ofNat k.pending.size),
    .recordsDropped (UInt64.ofNat k.queue.length)]

/-- The events that count everything that a worker holds as lost. -/
def losses (k : Worker) : List Event :=
  match k.phase with
  | .embedding _ _ => .recordsDropped 1 :: k.abandoned
  | .writing batch _ (.embed _ _) =>
    .batchDropped (UInt64.ofNat batch.length) :: .recordsDropped 1 :: k.abandoned
  | .writing batch _ _ => .batchDropped (UInt64.ofNat batch.length) :: k.abandoned
  | .idle | .stopped | .broken => k.abandoned

end Worker

namespace World

/-- How the embedding of an entry goes on now. -/
def embedProgress (w : World) (item : Item) (call : Call Embedding) : Progress Embedding :=
  w.client.step item.entry.message (fun _ => w.embeddingReply item.entry.message) w.now call

/-- How a write goes on now. -/
def writeProgress (w : World) (call : Call Unit) : Progress Unit :=
  call.step w.settings.flushRetry none .queueFull (fun _ => w.backend.insert w.writes.length)
    w.now

/-- What a worker decides on an embedding that came in now, and its windows after that. -/
def considered (w : World) (k : Worker) (item : Item) (v : Embedding) :
    Decision × Deduplicator :=
  k.dedup.consider item.entry.source v w.fineNow

/-! ### The form of a step -/

theorem proceed_eq (w : World) (i : Nat) (k : Worker) (next : Next) :
    w.proceed i k next = w.setWorker i (k.proceed next) := by
  cases next <;> rfl

theorem flush_eq (w : World) (i : Nat) (k : Worker) (next : Next) :
    w.flush i k next = w.setWorker i (k.flush w.settings.flushRetry next) := by
  simp only [World.flush, Accumulator.take]
  by_cases h : k.pending.isEmpty
  · simp [h, Worker.flush, proceed_eq]
  · simp [h, Worker.flush]

theorem abandon_eq (w : World) (i : Nat) (k : Worker) :
    w.abandon i k = { w with
      metrics := k.abandoned.foldl Metrics.add w.metrics
      workers := w.workers.set i (k.leave .stopped)
      offers := refuseWaiting i w.offers } := by
  by_cases h : k.pending.isEmpty <;> simp [World.abandon, Worker.abandoned, h, count]

theorem giveUpWrite_eq (w : World) (i : Nat) {k : Worker} {batch : Batch} {call : Call Unit}
    {next : Next} (h : k.phase = .writing batch call next) :
    w.giveUpWrite i k batch next = { w with
      metrics := k.losses.foldl Metrics.add w.metrics
      readings := w.readings + 1
      workers := w.workers.set i
        ({ k with dedup := k.dedup.expire w.fineNow }.leave .stopped)
      offers := refuseWaiting i w.offers } := by
  cases next <;> simp only [giveUpWrite, expireWindows, abandon_eq, Worker.losses, h] <;> rfl

theorem endWrite_eq (w : World) (i : Nat) (k : Worker) (next : Next) (e : Event) :
    w.endWrite i k next e = ({ w with readings := w.readings + 1 }.count e).setWorker i
      ({ k with dedup := k.dedup.expire w.fineNow }.proceed next) := by
  cases next <;> rfl

/-! ### The steps of a worker -/

/-- What the worker `k` with the number `i` can do: the world after it, and what must be so for
it. -/
inductive Works (w : World) (i : Nat) (k : Worker) : World → Prop where
  /-- At the deadline it counts everything it holds as lost, and stops. -/
  | leaves (readings : Nat) (dedup : Deduplicator) (hgone : k.isGone = false)
      (hover : w.isOver = true) :
    Works w i k { w with
      metrics := k.losses.foldl Metrics.add w.metrics
      readings
      workers := w.workers.set i ({ k with dedup }.leave .stopped)
      offers := refuseWaiting i w.offers }
  /-- A backend breaks, and the worker with it. -/
  | breaks (hover : w.isOver = false)
      (hstep : (∃ item call, k.phase = .embedding item call ∧
          w.isDue k.pending.deadline? = false ∧ w.embedProgress item call = .ended .breaks) ∨
        ∃ batch call next, k.phase = .writing batch call next ∧
          w.writeProgress call = .ended .breaks) :
    Works w i k (w.breakDown i k)
  /-- The points that wait are old enough, and no entry is at hand. -/
  | flushes (hphase : k.phase = .idle) (hover : w.isOver = false)
      (hdue : w.isDue k.pending.deadline? = true) :
    Works w i k (w.setWorker i (k.flush w.settings.flushRetry .resume))
  /-- The points that wait are old enough while an entry is being embedded. -/
  | interrupts {item : Item} {call : Call Embedding} (hphase : k.phase = .embedding item call)
      (hover : w.isOver = false) (hdue : w.isDue k.pending.deadline? = true) :
    Works w i k (w.setWorker i (k.flush w.settings.flushRetry (.embed item call)))
  /-- No entry can come any more. -/
  | drains (hphase : k.phase = .idle) (hover : w.isOver = false)
      (hdue : w.isDue k.pending.deadline? = false) (hqueue : k.queue = [])
      (hclosed : w.accepting = false) (hnone : w.offers.any (isWaitingFor i) = false) :
    Works w i k (w.setWorker i (k.flush w.settings.flushRetry .finish))
  /-- It takes the next entry, and a producer is granted the room. -/
  | takes {item : Item} {queue : List Item} (hphase : k.phase = .idle)
      (hover : w.isOver = false) (hdue : w.isDue k.pending.deadline? = false)
      (hqueue : k.queue = item :: queue) :
    Works w i k { w with
      workers := w.workers.set i { k with queue, phase := .embedding item w.client.start }
      offers := grant i w.offers }
  /-- It makes an attempt to embed. -/
  | asks {item : Item} {call call' : Call Embedding} (hphase : k.phase = .embedding item call)
      (hover : w.isOver = false) (hdue : w.isDue k.pending.deadline? = false)
      (hstep : w.embedProgress item call = .began call') :
    Works w i k ({ w with asked := ⟨w.now, item⟩ :: w.asked }.setWorker i
      { k with phase := .embedding item call' })
  /-- The embedding goes on without an attempt. -/
  | rests {item : Item} {call call' : Call Embedding} (hphase : k.phase = .embedding item call)
      (hover : w.isOver = false) (hdue : w.isDue k.pending.deadline? = false)
      (hstep : w.embedProgress item call = .moved call') :
    Works w i k (w.setWorker i { k with phase := .embedding item call' })
  /-- The entry at hand could not be embedded. -/
  | fails {item : Item} {call : Call Embedding} {f : Fault}
      (hphase : k.phase = .embedding item call) (hover : w.isOver = false)
      (hdue : w.isDue k.pending.deadline? = false)
      (hstep : w.embedProgress item call = .ended (.fails f)) :
    Works w i k ((w.count .embeddingFailure).setWorker i { k with phase := .idle })
  /-- The entry at hand is a near-duplicate. -/
  | suppresses {item : Item} {call : Call Embedding} {x : Embedding}
      (hphase : k.phase = .embedding item call) (hover : w.isOver = false)
      (hdue : w.isDue k.pending.deadline? = false)
      (hstep : w.embedProgress item call = .ended (.gives x))
      (hdecision : (w.considered k item x).1 = .suppress) :
    Works w i k (({ w with readings := w.readings + 1 }.count .duplicateSuppressed).setWorker i
      { k with dedup := (w.considered k item x).2, phase := .idle })
  /-- The entry at hand joins the points that wait, which do not fill a batch yet. -/
  | collects {item : Item} {call : Call Embedding} {x : Embedding}
      (hphase : k.phase = .embedding item call) (hover : w.isOver = false)
      (hdue : w.isDue k.pending.deadline? = false)
      (hstep : w.embedProgress item call = .ended (.gives x))
      (hdecision : (w.considered k item x).1 = .accept)
      (hroom : (k.collect (w.considered k item x).2 item x w.now).pending.isFull = false) :
    Works w i k ({ w with readings := w.readings + 1 }.setWorker i
      (k.collect (w.considered k item x).2 item x w.now))
  /-- The entry at hand fills the batch. -/
  | fills {item : Item} {call : Call Embedding} {x : Embedding}
      (hphase : k.phase = .embedding item call) (hover : w.isOver = false)
      (hdue : w.isDue k.pending.deadline? = false)
      (hstep : w.embedProgress item call = .ended (.gives x))
      (hdecision : (w.considered k item x).1 = .accept)
      (hfull : (k.collect (w.considered k item x).2 item x w.now).pending.isFull = true) :
    Works w i k ({ w with readings := w.readings + 1 }.setWorker i
      ((k.collect (w.considered k item x).2 item x w.now).flush w.settings.flushRetry .resume))
  /-- It makes an attempt to write, which is a repetition if it is not the first one. -/
  | writes {batch : Batch} {call call' : Call Unit} {next : Next}
      (hphase : k.phase = .writing batch call next) (hover : w.isOver = false)
      (hstep : w.writeProgress call = .began call') :
    Works w i k ({ w with
        metrics := if 1 < call'.attempts then w.metrics.add .storageRetry else w.metrics
        writes := ⟨w.now, batch, (w.backend.insert w.writes.length).response⟩ :: w.writes
      }.setWorker i { k with phase := .writing batch call' next })
  /-- The write goes on without an attempt. -/
  | pauses {batch : Batch} {call call' : Call Unit} {next : Next}
      (hphase : k.phase = .writing batch call next) (hover : w.isOver = false)
      (hstep : w.writeProgress call = .moved call') :
    Works w i k (w.setWorker i { k with phase := .writing batch call' next })
  /-- The batch is stored. -/
  | stores {batch : Batch} {call : Call Unit} {next : Next}
      (hphase : k.phase = .writing batch call next) (hover : w.isOver = false)
      (hstep : w.writeProgress call = .ended (.gives ())) :
    Works w i k (({ w with readings := w.readings + 1 }.count
        (.batchFlushed (UInt64.ofNat batch.length))).setWorker i
      ({ k with dedup := k.dedup.expire w.fineNow }.proceed next))
  /-- The batch could not be stored. -/
  | drops {batch : Batch} {call : Call Unit} {next : Next} {f : Fault}
      (hphase : k.phase = .writing batch call next) (hover : w.isOver = false)
      (hstep : w.writeProgress call = .ended (.fails f)) :
    Works w i k (({ w with readings := w.readings + 1 }.count
        (.batchDropped (UInt64.ofNat batch.length))).setWorker i
      ({ k with dedup := k.dedup.expire w.fineNow }.proceed next))

/-! ### The list is complete -/

variable {w v : World} {i : Nat} {k : Worker}

private theorem works_of_stepIdle (hphase : k.phase = .idle) (h : w.stepIdle i k = some v) :
    w.Works i k v := by
  have hgone : k.isGone = false := by simp [Worker.isGone, hphase]
  simp only [stepIdle] at h
  split at h
  · rename_i hover
    cases h
    rw [abandon_eq, show k.abandoned = k.losses by simp [Worker.losses, hphase]]
    exact .leaves w.readings k.dedup hgone hover
  · rename_i hover
    have hover : w.isOver = false := by simpa using hover
    split at h
    · rename_i hdue
      cases h
      rw [flush_eq]
      exact .flushes hphase hover hdue
    · rename_i hdue
      have hdue : w.isDue k.pending.deadline? = false := by simpa using hdue
      split at h
      · rename_i item queue hqueue
        cases h
        exact .takes hphase hover hdue hqueue
      · rename_i hqueue
        split at h
        · cases h
        · rename_i hopen
          cases h
          rw [flush_eq]
          simp only [Bool.or_eq_true, not_or, Bool.not_eq_true] at hopen
          exact .drains hphase hover hdue hqueue hopen.1 hopen.2

/-- An entry that was embedded is suppressed, or joins the points that wait, or fills the batch. -/
private theorem works_keep {item : Item} {call : Call Embedding} {x : Embedding}
    (hphase : k.phase = .embedding item call) (hover : w.isOver = false)
    (hdue : w.isDue k.pending.deadline? = false)
    (hstep : w.embedProgress item call = .ended (.gives x)) :
    w.Works i k (w.keep i k item x) := by
  cases hdecision : (w.considered k item x).1 with
  | suppress =>
    have heq : w.keep i k item x = ({ w with readings := w.readings + 1 }.count
        .duplicateSuppressed).setWorker i
          { k with dedup := (w.considered k item x).2, phase := .idle } := by
      simp only [considered] at hdecision ⊢
      simp only [keep, hdecision]
    rw [heq]
    exact .suppresses hphase hover hdue hstep hdecision
  | accept =>
    cases hfull : (k.collect (w.considered k item x).2 item x w.now).pending.isFull with
    | false =>
      have heq : w.keep i k item x = { w with readings := w.readings + 1 }.setWorker i
          (k.collect (w.considered k item x).2 item x w.now) := by
        simp only [considered, Worker.collect] at hdecision hfull ⊢
        simp [keep, hdecision, hfull]
      rw [heq]
      exact .collects hphase hover hdue hstep hdecision hfull
    | true =>
      have heq : w.keep i k item x = { w with readings := w.readings + 1 }.setWorker i
          ((k.collect (w.considered k item x).2 item x w.now).flush
            w.settings.flushRetry .resume) := by
        simp only [considered, Worker.collect] at hdecision hfull ⊢
        simp [keep, hdecision, hfull, flush_eq]
      rw [heq]
      exact .fills hphase hover hdue hstep hdecision hfull

private theorem works_of_stepEmbedding {item : Item} {call : Call Embedding}
    (hphase : k.phase = .embedding item call) (h : w.stepEmbedding i k item call = some v) :
    w.Works i k v := by
  have hgone : k.isGone = false := by simp [Worker.isGone, hphase]
  simp only [stepEmbedding] at h
  split at h
  · rename_i hover
    cases h
    rw [abandon_eq, show k.abandoned.foldl Metrics.add (w.count (.recordsDropped 1)).metrics
      = k.losses.foldl Metrics.add w.metrics by simp [Worker.losses, hphase, count]]
    exact .leaves w.readings k.dedup hgone hover
  · rename_i hover
    have hover : w.isOver = false := by simpa using hover
    split at h
    · rename_i hdue
      cases h
      rw [flush_eq]
      exact .interrupts hphase hover hdue
    · rename_i hdue
      have hdue : w.isDue k.pending.deadline? = false := by simpa using hdue
      split at h
      · rename_i call' hstep
        cases h
        exact .asks hphase hover hdue hstep
      · rename_i call' hstep
        cases h
        exact .rests hphase hover hdue hstep
      · rename_i x hstep
        cases h
        exact works_keep hphase hover hdue hstep
      · rename_i f hstep
        cases h
        exact .fails hphase hover hdue hstep
      · rename_i hstep
        cases h
        exact .breaks hover (.inl ⟨item, call, hphase, hdue, hstep⟩)
      · cases h

private theorem works_of_stepWriting {batch : Batch} {call : Call Unit} {next : Next}
    (hphase : k.phase = .writing batch call next)
    (h : w.stepWriting i k batch call next = some v) : w.Works i k v := by
  have hgone : k.isGone = false := by simp [Worker.isGone, hphase]
  simp only [stepWriting] at h
  split at h
  · rename_i hover
    cases h
    rw [giveUpWrite_eq w i hphase]
    exact .leaves (w.readings + 1) (k.dedup.expire w.fineNow) hgone hover
  · rename_i hover
    have hover : w.isOver = false := by simpa using hover
    split at h
    · rename_i call' hstep
      cases h
      have hwrites := Works.writes (i := i) hphase hover hstep
      by_cases hrepeat : 1 < call'.attempts
      · simp only [hrepeat, if_true] at hwrites ⊢
        exact hwrites
      · simp only [hrepeat, if_false] at hwrites ⊢
        exact hwrites
    · rename_i call' hstep
      cases h
      exact .pauses hphase hover hstep
    · rename_i hstep
      cases h
      rw [endWrite_eq]
      exact .stores hphase hover hstep
    · rename_i f hstep
      cases h
      rw [endWrite_eq]
      exact .drops hphase hover hstep
    · rename_i hstep
      cases h
      exact .breaks hover (.inr ⟨batch, call, next, hphase, hstep⟩)
    · cases h

/-- **Every step of a worker is in the list.** -/
theorem works_of_work (h : w.work i = some v) :
    ∃ k, w.workers[i]? = some k ∧ w.Works i k v := by
  simp only [work, Option.bind_eq_bind, Option.bind_eq_some_iff] at h
  obtain ⟨k, hk, h⟩ := h
  refine ⟨k, hk, ?_⟩
  split at h
  · rename_i hphase
    exact works_of_stepIdle hphase h
  · rename_i item call hphase
    exact works_of_stepEmbedding hphase h
  · rename_i batch call next hphase
    exact works_of_stepWriting hphase h
  · cases h
  · cases h

end World

end LogIntake.Pipeline
