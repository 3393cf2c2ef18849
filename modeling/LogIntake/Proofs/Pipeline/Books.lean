import Mathlib.Data.List.Perm.Subperm
import LogIntake.Proofs.Pipeline.BatchAge

/-!
# The books of a pipeline

The **books** of a run list the batches that were taken out of accumulators, how each batch was
**disposed of**, and the entries that were dropped outside of batches. A batch is disposed of when
its write ends, when its worker stops at the deadline, or when the store breaks; until then it is
**in flight**.

What a step of a worker adds to the books is `World.booked`. `World.Works.filed` compares it with
what the step does, and with the ledger of entries; `Run.booked` draws the balance: every batch
that was taken was disposed of once or is in flight, and the totals count batches by their fates,
with their entries. As no entry leaves twice, no two batches have an entry in common
(`Run.nodup_taken`).
-/

namespace LogIntake.Pipeline

/-! ### Books -/

/-- What becomes of a batch. -/
inductive BatchFate where
  /-- The store took it. -/
  | flushed
  /-- The store refused it, or failed too often. -/
  | refused
  /-- Its worker stopped at the deadline. -/
  | cutOff
  /-- The store broke, and its worker with it. -/
  | lost
  deriving DecidableEq, Repr

namespace BatchFate

/-- Whether a batch with this fate is counted as flushed. -/
def isFlushed : BatchFate → Bool
  | .flushed => true
  | .refused | .cutOff | .lost => false

/-- Whether a batch with this fate is counted as dropped. -/
def isDropped : BatchFate → Bool
  | .refused | .cutOff => true
  | .flushed | .lost => false

/-- The fate of a batch whose write has ended. -/
def ofResponse : Response Unit → BatchFate
  | .gives _ => .flushed
  | .fails _ => .refused
  | .breaks => .lost

end BatchFate

/-- A batch that is no longer held: what became of it, when, and when the workers had to stop, if
that was known then. -/
structure Disposal where
  batch : Batch
  fate : BatchFate
  time : Nat
  deadline : Option Nat

/-- The entries of a batch that is no longer held. -/
def Disposal.items (d : Disposal) : List Item :=
  d.batch.map itemOf

/-- Batches that were taken out and that were disposed of, and entries that were dropped outside
of batches, each in order. -/
structure Books where
  taken : List Batch := []
  disposed : List Disposal := []
  spilled : List Item := []

namespace Books

/-- The books after more was entered. -/
def add (b more : Books) : Books :=
  ⟨b.taken ++ more.taken, b.disposed ++ more.disposed, b.spilled ++ more.spilled⟩

/-- The batches that were disposed of with some fates. -/
def disposedAs (b : Books) (p : BatchFate → Bool) : List Disposal :=
  b.disposed.filter fun d => p d.fate

/-- The entries of the batches that were disposed of with some fates. -/
def itemsOf (b : Books) (p : BatchFate → Bool) : List Item :=
  (b.disposedAs p).flatMap Disposal.items

@[simp] theorem disposedAs_add (b more : Books) (p : BatchFate → Bool) :
    (b.add more).disposedAs p = b.disposedAs p ++ more.disposedAs p :=
  List.filter_append _ _

@[simp] theorem itemsOf_add (b more : Books) (p : BatchFate → Bool) :
    (b.add more).itemsOf p = b.itemsOf p ++ more.itemsOf p := by
  rw [itemsOf, disposedAs_add, List.flatMap_append]
  rfl

@[simp] theorem add_empty (b : Books) : b.add {} = b := by
  simp [add]

end Books

/-- The batch that is being written, if there is one. -/
def Phase.inFlight : Phase → List Batch
  | .writing batch _ _ => [batch]
  | .idle | .embedding _ _ | .stopped | .broken => []

/-- The batch that the points that wait make, if there are any. -/
def Worker.waiting (k : Worker) : List Batch :=
  if k.pending.isEmpty then [] else [k.pending.pending]

namespace World

/-- The batches that are being written. -/
def inFlight (w : World) : List Batch :=
  w.workers.flatMap (·.phase.inFlight)

/-- The disposal of a batch now. -/
def disposal (w : World) (f : BatchFate) (batch : Batch) : Disposal :=
  ⟨batch, f, w.now, w.deadline⟩

/-- What a step of a worker, which makes another worker of it, adds to the books. At the deadline
the points that wait are taken out, and so is the batch that is written after the step. -/
def booked (w : World) (k k' : Worker) : Books :=
  if w.isOver then ⟨k.waiting, (k.phase.inFlight ++ k.waiting).map (w.disposal .cutOff), k.ahead⟩
  else
    match k.phase with
    | .idle | .embedding _ _ => ⟨k'.phase.inFlight, [], []⟩
    | .writing batch call _ =>
      match w.writeProgress call with
      | .ended r => ⟨[], [w.disposal (.ofResponse r) batch], []⟩
      | .began _ | .moved _ | .blocked => {}
    | .stopped | .broken => {}

/-- What an action that leads to another world adds to the books. -/
def booking (w v : World) : Action → Books
  | .work i =>
    match w.workers[i]?, v.workers[i]? with
    | some k, some k' => w.booked k k'
    | _, _ => {}
  | .offer _ | .settle _ | .close | .stop | .wait _ => {}

end World

/-- The books of a run. -/
def Run.books {w : World} : {v : World} → Run w v → Books
  | _, .refl => {}
  | _, .step (v := v) (u := u) r a _ => r.books.add (v.booking u a)

/-! ### A step of a worker and the books -/

theorem Worker.flatten_waiting (k : Worker) : k.waiting.flatten = k.pending.pending := by
  rw [waiting]
  split
  · rename_i hempty
    simpa [Accumulator.isEmpty] using hempty.symm
  · simp

theorem Phase.flatten_inFlight (p : Phase) : p.inFlight.flatten = p.batch := by
  cases p <;> simp [inFlight, batch]

namespace World

variable {w v : World} {i : Nat} {k k' : Worker}

/-- How a step of a worker disposes of a batch: at the deadline, or because its write has ended. -/
theorem mem_disposed_booked {d : Disposal} (hd : d ∈ (w.booked k k').disposed) :
    (w.isOver = true ∧ ∃ x ∈ k.phase.inFlight ++ k.waiting, d = w.disposal .cutOff x) ∨
      (w.isOver = false ∧ ∃ batch call next r, k.phase = .writing batch call next ∧
        w.writeProgress call = .ended r ∧ d = w.disposal (.ofResponse r) batch) := by
  cases hover : w.isOver with
  | true =>
    rw [booked, if_pos hover] at hd
    obtain ⟨x, hx, rfl⟩ := List.mem_map.mp hd
    exact .inl ⟨rfl, x, hx, rfl⟩
  | false =>
    simp only [booked, hover, Bool.false_eq_true, if_false] at hd
    cases hphase : k.phase with
    | idle | embedding _ _ | stopped | broken => simp [hphase] at hd
    | writing batch call next =>
      simp only [hphase] at hd
      split at hd
      · rename_i r hstep
        exact .inr ⟨rfl, batch, call, next, r, rfl, hstep, List.mem_singleton.mp hd⟩
      all_goals cases hd

/-- What a step of a worker has to do with what it adds to the books. -/
structure Filed (w v : World) (i : Nat) (k k' : Worker) (b : Books) : Prop where
  /-- What was in flight or was taken has been disposed of or is in flight. -/
  custody : (b.taken ++ k.phase.inFlight).Perm
    (b.disposed.map Disposal.batch ++ k'.phase.inFlight)
  inhabited : ∀ x ∈ b.taken, x ≠ []
  dated : ∀ d ∈ b.disposed, d.time = w.now ∧ d.deadline = w.deadline
  /-- Entries leave together with their batches. -/
  items : (b.disposed.flatMap Disposal.items).Subperm (w.departures i).items
  stored : (w.departures i).met .stored = b.itemsOf BatchFate.isFlushed
  dropped : (w.departures i).met .dropped = b.itemsOf BatchFate.isDropped ++ b.spilled
  flushes : v.metrics.totals.batchesFlushed = w.metrics.totals.batchesFlushed +
    UInt64.ofNat (b.disposedAs BatchFate.isFlushed).length
  drops : v.metrics.totals.batchesDropped = w.metrics.totals.batchesDropped +
    UInt64.ofNat (b.disposedAs BatchFate.isDropped).length

/-- A step that counts no batch. -/
def SameBatches (w v : World) : Prop :=
  v.metrics.totals.batchesFlushed = w.metrics.totals.batchesFlushed ∧
    v.metrics.totals.batchesDropped = w.metrics.totals.batchesDropped

/-- What leaves while no batch is in flight, before the deadline, is neither stored nor dropped. -/
private theorem met_departures (hk : w.workers[i]? = some k) (hover : w.isOver = false)
    (hphase : k.phase.inFlight = []) :
    (w.departures i).met .stored = [] ∧ (w.departures i).met .dropped = [] := by
  simp only [departures, hk, hover, Bool.false_eq_true, if_false]
  cases h : k.phase with
  | writing batch call next => simp [h, Phase.inFlight] at hphase
  | idle | stopped | broken => exact ⟨rfl, rfl⟩
  | embedding item call =>
    dsimp only
    split
    · exact ⟨rfl, rfl⟩
    · split
      · split <;> exact ⟨rfl, rfl⟩
      · exact ⟨rfl, rfl⟩
      · simp [Ledger.met_all]
      all_goals exact ⟨rfl, rfl⟩

/-- A step of a worker that had no batch in flight. -/
private theorem Filed.ofTaken (hk : w.workers[i]? = some k) (hover : w.isOver = false)
    (hphase : k.phase.mayHold = true) (hcounts : SameBatches w v)
    (hinhabited : ∀ x ∈ k'.phase.inFlight, x ≠ []) :
    Filed w v i k k' (w.booked k k') := by
  have hflight : k.phase.inFlight = [] := by
    cases h : k.phase <;> simp_all [Phase.inFlight, Phase.mayHold]
  have hbooked : w.booked k k' = ⟨k'.phase.inFlight, [], []⟩ := by
    cases h : k.phase <;> simp_all [booked, Phase.mayHold]
  obtain ⟨hstored, hdropped⟩ := met_departures hk hover hflight
  rw [hbooked]
  refine ⟨?_, hinhabited, List.forall_mem_nil _, List.nil_subperm, hstored, hdropped, ?_, ?_⟩
  · simp [hflight]
  · simpa [Books.disposedAs] using hcounts.1
  · simpa [Books.disposedAs] using hcounts.2

/-- A step of a write that does not end it. -/
private theorem Filed.ofKept (hk : w.workers[i]? = some k) (hover : w.isOver = false)
    {batch : Batch} {call call' : Call Unit} {next : Next}
    (hphase : k.phase = .writing batch call next)
    (hstep : w.writeProgress call = .began call' ∨ w.writeProgress call = .moved call')
    (hcounts : SameBatches w v) :
    Filed w v i k { k with phase := .writing batch call' next }
      (w.booked k { k with phase := .writing batch call' next }) := by
  have hbooked : ∀ l, w.booked k l = {} := by
    intro l
    rcases hstep with hstep | hstep <;> simp [booked, hover, hphase, hstep]
  have hdepartures : w.departures i = [] := by
    rcases hstep with hstep | hstep <;> rw [departures_of_writing hk hover hphase, hstep]
  rw [hbooked]
  refine ⟨?_, List.forall_mem_nil _, List.forall_mem_nil _, List.nil_subperm, ?_, ?_, ?_, ?_⟩
  · simp [hphase, Phase.inFlight]
  · rw [hdepartures]
    rfl
  · rw [hdepartures]
    rfl
  · simpa [Books.disposedAs] using hcounts.1
  · simpa [Books.disposedAs] using hcounts.2

/-- A step with which a write ends. -/
private theorem Filed.ofEnded (hk : w.workers[i]? = some k) (hover : w.isOver = false)
    {batch : Batch} {call : Call Unit} {next : Next} {r : Response Unit}
    (hphase : k.phase = .writing batch call next) (hstep : w.writeProgress call = .ended r)
    (hafter : k'.phase.inFlight = [])
    (hflushes : v.metrics.totals.batchesFlushed = w.metrics.totals.batchesFlushed +
      if (BatchFate.ofResponse r).isFlushed then 1 else 0)
    (hdrops : v.metrics.totals.batchesDropped = w.metrics.totals.batchesDropped +
      if (BatchFate.ofResponse r).isDropped then 1 else 0) :
    Filed w v i k k' (w.booked k k') := by
  have hbooked : w.booked k k' = ⟨[], [w.disposal (.ofResponse r) batch], []⟩ := by
    simp [booked, hover, hphase, hstep]
  have hbatch : batch.map itemOf = k.phase.batch.map itemOf := by rw [hphase, Phase.batch]
  rw [hbooked]
  refine ⟨?_, List.forall_mem_nil _, ?_, ?_, ?_, ?_, ?_, ?_⟩
  · rw [hafter, hphase]
    exact .refl _
  · simp [disposal]
  · rw [departures_of_writing hk hover hphase, hstep]
    cases r with
    | gives _ | fails f =>
      rw [Ledger.items_all]
      simp only [List.flatMap_cons, List.flatMap_nil, List.append_nil]
      exact .refl _
    | breaks =>
      simp only [List.flatMap_cons, List.flatMap_nil, List.append_nil, Ledger.items_all]
      rw [Disposal.items, disposal, hbatch, Worker.items, List.append_assoc, List.append_assoc]
      exact (List.sublist_append_left _ _).subperm
  · rw [departures_of_writing hk hover hphase, hstep]
    cases r <;> simp [Books.itemsOf, Books.disposedAs, disposal, BatchFate.ofResponse,
      BatchFate.isFlushed, Ledger.met_all, Disposal.items]
  · rw [departures_of_writing hk hover hphase, hstep]
    cases r <;> simp [Books.itemsOf, Books.disposedAs, disposal, BatchFate.ofResponse,
      BatchFate.isDropped, Ledger.met_all, Disposal.items]
  · rw [hflushes]
    cases r <;> simp [Books.disposedAs, disposal, BatchFate.ofResponse, BatchFate.isFlushed]
  · rw [hdrops]
    cases r <;> simp [Books.disposedAs, disposal, BatchFate.ofResponse, BatchFate.isDropped]

/-- Giving up everything counts the batch in flight and the points that wait as dropped. -/
private theorem batches_losses (k : Worker) (m : Metrics) :
    (k.losses.foldl Metrics.add m).totals.batchesFlushed = m.totals.batchesFlushed ∧
      (k.losses.foldl Metrics.add m).totals.batchesDropped = m.totals.batchesDropped +
        UInt64.ofNat (k.phase.inFlight ++ k.waiting).length := by
  have habandoned : ∀ m : Metrics,
      (k.abandoned.foldl Metrics.add m).totals.batchesFlushed = m.totals.batchesFlushed ∧
        (k.abandoned.foldl Metrics.add m).totals.batchesDropped = m.totals.batchesDropped +
          UInt64.ofNat k.waiting.length := by
    intro m
    by_cases hempty : k.pending.isEmpty <;>
      simp [Worker.abandoned, Worker.waiting, hempty, Metrics.add, Totals.add]
  cases hphase : k.phase with
  | idle | stopped | broken =>
    simp only [Worker.losses, hphase, Phase.inFlight, List.nil_append]
    exact habandoned m
  | embedding item call =>
    simp only [Worker.losses, hphase, Phase.inFlight, List.nil_append, List.foldl_cons]
    exact habandoned _
  | writing batch call next =>
    have hone : m.totals.batchesDropped + 1 + UInt64.ofNat k.waiting.length =
        m.totals.batchesDropped + UInt64.ofNat ([batch] ++ k.waiting).length := by
      rw [List.length_append, List.length_singleton, UInt64.ofNat_add, UInt64.add_assoc]
      rfl
    cases next <;> simp only [Worker.losses, hphase, Phase.inFlight, List.foldl_cons, ← hone] <;>
      exact habandoned _

/-- A step with which a worker stops at the deadline. -/
private theorem Filed.ofLeft (hk : w.workers[i]? = some k) (hover : w.isOver = true)
    (hafter : k'.phase.inFlight = [])
    (hmetrics : v.metrics = k.losses.foldl Metrics.add w.metrics) :
    Filed w v i k k' (w.booked k k') := by
  have hbooked : w.booked k k' =
      ⟨k.waiting, (k.phase.inFlight ++ k.waiting).map (w.disposal .cutOff), k.ahead⟩ := by
    simp [booked, hover]
  have hdepartures : w.departures i = .all .dropped k.items := by simp [departures, hk, hover]
  have hitems : ((k.phase.inFlight ++ k.waiting).map (w.disposal .cutOff)).flatMap
      Disposal.items = k.phase.batch.map itemOf ++ k.pending.pending.map itemOf := by
    rw [List.flatMap_map, ← k.phase.flatten_inFlight, ← k.flatten_waiting, ← List.map_append,
      ← List.flatten_append, List.map_flatten]
    rfl
  have hnone : ∀ l : List Batch,
      (l.map (w.disposal .cutOff)).filter (fun d => d.fate.isFlushed) = [] := by
    simp [disposal, BatchFate.isFlushed]
  have hall : ∀ l : List Batch, (l.map (w.disposal .cutOff)).filter
      (fun d => d.fate.isDropped) = l.map (w.disposal .cutOff) := by
    simp [disposal, BatchFate.isDropped]
  obtain ⟨hflushes, hdrops⟩ := batches_losses k w.metrics
  rw [hbooked]
  refine ⟨?_, ?_, ?_, ?_, ?_, ?_, ?_, ?_⟩
  · rw [hafter, List.append_nil, List.map_map]
    have hid : Disposal.batch ∘ w.disposal .cutOff = id := rfl
    rw [hid, List.map_id]
    exact List.perm_append_comm
  · intro x hx
    rw [Worker.waiting] at hx
    split at hx
    · cases hx
    · rename_i hsome
      obtain rfl := List.mem_singleton.mp hx
      simpa [Accumulator.isEmpty] using hsome
  · intro d hd
    obtain ⟨x, -, rfl⟩ := List.mem_map.mp hd
    exact ⟨rfl, rfl⟩
  · rw [hitems, hdepartures, Ledger.items_all, Worker.items, List.append_assoc]
    exact (List.sublist_append_left _ _).subperm
  · rw [hdepartures, Ledger.met_all, if_neg (by decide), Books.itemsOf, Books.disposedAs, hnone]
    rfl
  · rw [hdepartures, Ledger.met_all, if_pos rfl, Books.itemsOf, Books.disposedAs, hall, hitems,
      Worker.items, Worker.ahead, List.append_assoc]
  · rw [hmetrics, hflushes, Books.disposedAs, hnone]
    simp
  · rw [hmetrics, hdrops, Books.disposedAs, hall, List.length_map]

/-- **What a step of a worker adds to the books** agrees with what it does. -/
theorem Works.filed (h : w.Works i k v) (hk : w.workers[i]? = some k)
    (hk' : v.workers[i]? = some k') : Filed w v i k k' (w.booked k k') := by
  have hproceed : ∀ (l : Worker) (n : Next), (l.proceed n).phase.inFlight = [] := by
    intro l n
    cases n <;> rfl
  have hflush : ∀ (l : Worker) (n : Next),
      ∀ x ∈ (l.flush w.settings.flushRetry n).phase.inFlight, x ≠ [] := by
    intro l n x hx
    rw [Worker.flush] at hx
    split at hx
    · rw [hproceed] at hx
      cases hx
    · rename_i hsome
      obtain rfl := List.mem_singleton.mp hx
      simpa [Accumulator.isEmpty] using hsome
  cases h
  case leaves readings dedup hgone hover =>
    obtain rfl := eq_of_getElem?_set hk hk'
    exact .ofLeft hk hover rfl rfl
  case breaks hover hstep =>
    obtain rfl := eq_of_getElem?_set hk hk'
    obtain ⟨item, call, hphase, -⟩ | ⟨batch, call, next, hphase, hstep⟩ := hstep
    · exact .ofTaken hk hover (by rw [hphase]; rfl) ⟨rfl, rfl⟩ (List.forall_mem_nil _)
    · exact .ofEnded hk hover hphase hstep rfl (UInt64.add_zero _).symm (UInt64.add_zero _).symm
  case flushes hphase hover _ | drains hphase hover _ _ _ _ =>
    obtain rfl := eq_of_getElem?_set hk hk'
    exact .ofTaken hk hover (by rw [hphase]; rfl) ⟨rfl, rfl⟩ (hflush _ _)
  case interrupts hphase hover _ | fills hphase hover _ _ _ _ =>
    obtain rfl := eq_of_getElem?_set hk hk'
    exact .ofTaken hk hover (by rw [hphase]; rfl) ⟨rfl, rfl⟩ (hflush _ _)
  case writes hphase hover hstep =>
    obtain rfl := eq_of_getElem?_set hk hk'
    refine .ofKept hk hover hphase (.inl hstep) ?_
    simp only [SameBatches, setWorker]
    split <;> exact ⟨rfl, rfl⟩
  case pauses hphase hover hstep =>
    obtain rfl := eq_of_getElem?_set hk hk'
    exact .ofKept hk hover hphase (.inr hstep) ⟨rfl, rfl⟩
  case stores hphase hover hstep =>
    obtain rfl := eq_of_getElem?_set hk hk'
    exact .ofEnded hk hover hphase hstep (hproceed _ _) rfl (UInt64.add_zero _).symm
  case drops hphase hover hstep =>
    obtain rfl := eq_of_getElem?_set hk hk'
    exact .ofEnded hk hover hphase hstep (hproceed _ _) (UInt64.add_zero _).symm rfl
  -- The others leave no batch in flight.
  case takes hphase hover _ _ | asks hphase hover _ _ | rests hphase hover _ _ |
      fails hphase hover _ _ | suppresses hphase hover _ _ _ | collects hphase hover _ _ _ _ =>
    obtain rfl := eq_of_getElem?_set hk hk'
    exact .ofTaken hk hover (by rw [hphase]; rfl) ⟨rfl, rfl⟩ (List.forall_mem_nil _)

/-! ### The balance of the books -/

/-- What holds in a world when the entries of a ledger have left and the books stand so. -/
structure Booked (w : World) (l : Ledger) (b : Books) : Prop where
  /-- A batch that was taken has been disposed of once, or is in flight. -/
  custody : b.taken.Perm (b.disposed.map Disposal.batch ++ w.inFlight)
  inhabited : ∀ x ∈ b.taken, x ≠ []
  dated : ∀ d ∈ b.disposed, d.time ≤ w.now
  /-- Entries have left together with their batches. -/
  items : (b.disposed.flatMap Disposal.items).Subperm l.items
  stored : l.met .stored = b.itemsOf BatchFate.isFlushed
  dropped : (l.met .dropped).Perm (b.itemsOf BatchFate.isDropped ++ b.spilled)
  flushes : w.metrics.totals.batchesFlushed =
    UInt64.ofNat (b.disposedAs BatchFate.isFlushed).length
  drops : w.metrics.totals.batchesDropped =
    UInt64.ofNat (b.disposedAs BatchFate.isDropped).length

theorem booked_start (s : Settings) (c : Client) (b : Backend) :
    (start s c b).Booked [] {} where
  custody := by simp [start, inFlight, Worker.start, Phase.inFlight]
  inhabited := List.forall_mem_nil _
  dated := List.forall_mem_nil _
  items := List.nil_subperm
  stored := rfl
  dropped := .nil
  flushes := rfl
  drops := rfl

variable {l : Ledger} {b : Books}

private theorem Booked.works (hw : w.Booked l b) (h : w.Works i k v)
    (hk : w.workers[i]? = some k) (hk' : v.workers[i]? = some k') :
    v.Booked (l ++ w.departures i) (b.add (w.booked k k')) := by
  have hfiled := h.filed hk hk'
  obtain ⟨m, hv⟩ := h.workers hk
  obtain rfl : k' = m := Option.some.inj (hk'.symm.trans (hv ▸ getElem?_set_worker hk m))
  obtain ⟨rest, hbefore, hafter⟩ := flatMap_perm (·.phase.inFlight) hk
  refine ⟨?_, ?_, ?_, ?_, ?_, ?_, ?_, ?_⟩
  · -- What the other workers have in flight stays, so it is set apart before and after the step.
    rw [inFlight, hv, Books.add, List.map_append, List.append_assoc]
    calc (b.taken ++ (w.booked k k').taken).Perm
          (b.disposed.map Disposal.batch ++ (k.phase.inFlight ++ rest) ++
            (w.booked k k').taken) := (hw.custody.trans (hbefore.append_left _)).append_right _
      List.Perm _ (b.disposed.map Disposal.batch ++
          ((w.booked k k').taken ++ k.phase.inFlight ++ rest)) := by
        rw [List.append_assoc, List.append_assoc _ k.phase.inFlight]
        exact List.perm_append_comm.append_left _
      List.Perm _ (b.disposed.map Disposal.batch ++
          ((w.booked k k').disposed.map Disposal.batch ++ (k'.phase.inFlight ++ rest))) := by
        rw [← List.append_assoc _ k'.phase.inFlight]
        exact (hfiled.custody.append_right _).append_left _
      List.Perm _ _ := ((hafter k').symm.append_left _).append_left _
  · exact List.forall_mem_append.mpr ⟨hw.inhabited, hfiled.inhabited⟩
  · rw [h.frame.now]
    exact List.forall_mem_append.mpr
      ⟨hw.dated, fun d hd => Nat.le_of_eq (hfiled.dated d hd).1⟩
  · rw [Books.add, List.flatMap_append, Ledger.items_append]
    exact hw.items.append hfiled.items
  · rw [Ledger.met_append, Books.itemsOf_add, hw.stored, hfiled.stored]
  · rw [Ledger.met_append, Books.itemsOf_add, hfiled.dropped]
    refine (hw.dropped.append_right _).trans ?_
    rw [List.append_assoc, Books.add, List.append_assoc]
    exact (List.perm_append_comm_assoc _ _ _).append_left _
  · rw [hfiled.flushes, hw.flushes, Books.disposedAs_add, List.length_append, UInt64.ofNat_add]
  · rw [hfiled.drops, hw.drops, Books.disposedAs_add, List.length_append, UInt64.ofNat_add]

/-- What happens apart from the steps of workers leaves every worker's phase as it is. -/
theorem Occurs.inFlight (h : w.Occurs v) (hw : w.Orderly) : v.inFlight = w.inFlight := by
  obtain ⟨j, m, e, harrives⟩ | hstill := h.arrives_or_still hw
  · obtain ⟨hj, rfl⟩ := List.getElem?_eq_some_iff.mp harrives.worker
    rw [World.inFlight, World.inFlight, harrives.workers, List.flatMap_def, List.flatMap_def,
      List.map_set]
    congr 1
    rw [← List.getElem_map (fun k : Worker => k.phase.inFlight), List.set_getElem_self]
    simpa using hj
  · rw [World.inFlight, World.inFlight, hstill.workers]

theorem booking_eq_empty {a : Action} (h : ∀ i, a ≠ .work i) : w.booking v a = {} := by
  cases a with
  | work i => exact absurd rfl (h i)
  | offer _ | settle _ | close | stop | wait _ => rfl

theorem booking_work (hk : w.workers[i]? = some k) (hk' : v.workers[i]? = some k') :
    w.booking v (.work i) = w.booked k k' := by
  simp only [booking, hk, hk']

/-- **Every step keeps the balance of the books.** -/
theorem Booked.apply {a : Action} (hw : w.Booked l b) (horderly : w.Orderly)
    (h : w.apply a = some v) : v.Booked (l ++ w.leaving a) (b.add (w.booking v a)) := by
  obtain ⟨i, k, rfl, hk, hworks⟩ | ⟨hother, hoccurs⟩ := apply_cases h
  · obtain ⟨k', hv⟩ := hworks.workers hk
    have hk' : v.workers[i]? = some k' := by rw [hv, getElem?_set_worker hk]
    rw [booking_work hk hk']
    exact hw.works hworks hk hk'
  · have hmetrics : v.metrics = w.metrics := by
      obtain ⟨j, m, e, harrives⟩ | hstill := hoccurs.arrives_or_still horderly
      · exact harrives.metrics
      · exact hstill.metrics
    rw [w.leaving_eq_nil hother, List.append_nil, booking_eq_empty hother, Books.add_empty]
    refine ⟨?_, hw.inhabited, ?_, hw.items, hw.stored, hw.dropped, ?_, ?_⟩
    · rw [hoccurs.inFlight horderly]
      exact hw.custody
    · exact fun d hd => Nat.le_trans (hw.dated d hd) (now_le_of_apply h)
    · rw [hmetrics]
      exact hw.flushes
    · rw [hmetrics]
      exact hw.drops

/-! ### Batches are told apart by their entries -/

theorem items_inFlight_sublist (w : World) : (w.inFlight.flatten.map itemOf).Sublist w.held := by
  rw [inFlight, held]
  induction w.workers with
  | nil => exact .refl _
  | cons k ks ih =>
    rw [List.flatMap_cons, List.flatMap_cons, List.flatten_append, List.map_append,
      k.phase.flatten_inFlight]
    refine .append ?_ ih
    rw [Worker.items, List.append_assoc, List.append_assoc]
    exact List.sublist_append_left _ _

/-- Every entry that has come into a batch is an accepted one, and has come into this batch
only. -/
theorem Booked.items_subperm (hw : w.Booked l b) (hb : w.Balanced l) :
    (b.taken.flatten.map itemOf).Subperm w.accepted := by
  -- A batch that was taken is gone or in flight, and so are its entries, each once.
  have hgone : (b.disposed.map Disposal.batch).flatten.map itemOf =
      b.disposed.flatMap Disposal.items := by
    rw [List.map_flatten, List.map_map, List.flatMap_def]
    rfl
  have htaken : (b.taken.flatten.map itemOf).Perm
      (b.disposed.flatMap Disposal.items ++ w.inFlight.flatten.map itemOf) := by
    rw [← hgone, ← List.map_append, ← List.flatten_append]
    exact hw.custody.flatten.map _
  exact (htaken.subperm.trans (hw.items.append w.items_inFlight_sublist.subperm)).trans
    hb.custody.subperm

theorem Booked.nodup (hw : w.Booked l b) (hb : w.Balanced l) :
    (b.taken.flatten.map Point.id).Nodup := by
  obtain ⟨xs, hperm, hsublist⟩ := hw.items_subperm hb
  have hnodup : (xs.map Item.id).Nodup := hb.orderly.nodup.sublist (hsublist.map _)
  have hids : (b.taken.flatten.map itemOf).map Item.id = b.taken.flatten.map Point.id := by
    rw [List.map_map]
    rfl
  rw [← hids]
  exact (hperm.map _).nodup_iff.mp hnodup

end World

/-- No two places in a list of batches without common points hold the same batch. -/
theorem nodup_of_flatten {batches : List Batch} (h : (batches.flatten.map Point.id).Nodup)
    (hinhabited : ∀ x ∈ batches, x ≠ []) : batches.Nodup := by
  have hdisjoint := (List.nodup_flatten.mp (List.Nodup.of_map _ h)).2
  refine hdisjoint.imp_of_mem fun {x y} hx _ hxy heq => ?_
  obtain ⟨p, hp⟩ := List.exists_mem_of_ne_nil x (hinhabited x hx)
  exact hxy hp (heq ▸ hp)

/-- Two batches of a list without common points that have a point in common are the same. -/
theorem eq_of_mem_flatten {batches : List Batch} (h : (batches.flatten.map Point.id).Nodup)
    {x y : Batch} (hx : x ∈ batches) (hy : y ∈ batches) {p q : Point} (hp : p ∈ x) (hq : q ∈ y)
    (heq : p.id = q.id) : x = y ∧ p = q := by
  have hpq : p = q := List.inj_on_of_nodup_map h (List.mem_flatten.mpr ⟨x, hx, hp⟩)
    (List.mem_flatten.mpr ⟨y, hy, hq⟩) heq
  refine ⟨?_, hpq⟩
  subst hpq
  have hdisjoint := (List.nodup_flatten.mp (List.Nodup.of_map _ h)).2
  obtain ⟨i, hi, rfl⟩ := List.getElem_of_mem hx
  obtain ⟨j, hj, rfl⟩ := List.getElem_of_mem hy
  by_contra hne
  have hij : i ≠ j := fun hij => hne (by simp only [hij])
  rcases Nat.lt_or_gt_of_ne hij with hlt | hlt
  · exact List.pairwise_iff_getElem.mp hdisjoint i j hi hj hlt hp hq
  · exact List.pairwise_iff_getElem.mp hdisjoint j i hj hi hlt hq hp

namespace Run

variable {s : Settings} {c : Client} {b : Backend} {w : World}

theorem booked (r : Run (World.start s c b) w) : w.Booked r.ledger r.books := by
  induction r with
  | refl => exact World.booked_start s c b
  | step r a h ih => exact ih.apply r.balanced.orderly h

/-- No entry comes into two batches. -/
theorem nodup_taken (r : Run (World.start s c b) w) :
    (r.books.taken.flatten.map Point.id).Nodup :=
  r.booked.nodup r.balanced

end Run

end LogIntake.Pipeline
