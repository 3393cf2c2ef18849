import LogIntake.Proofs.Pipeline.Work

/-!
# The ledger of a pipeline

An entry that has entered a queue is **held** by its worker until it meets its **fate**: its point
is stored, or it is dropped, suppressed as a near-duplicate, or could not be embedded, or it is
lost with a worker that breaks. A **ledger** lists the entries that are no longer held, each with
its fate, in the order in which they left.

What leaves with a step of a worker is `World.departures`, told from what happens to the worker.
`World.Works.handover` compares it with what the step does: what a worker held before is what left
and what it holds after, the order is kept, and the totals rise by what left.
-/

namespace LogIntake.Pipeline

/-! ### What a worker holds -/

/-- The entry of a point, under its number. -/
def itemOf (p : Point) : Item := ⟨p.id, p.entry⟩

/-- The entry that is at hand while a batch is written. -/
def Next.inHand : Next → List Item
  | .embed item _ => [item]
  | .resume | .finish => []

namespace Phase

/-- The batch that is being written. -/
def batch : Phase → Batch
  | .writing batch _ _ => batch
  | .idle | .embedding _ _ | .stopped | .broken => []

/-- The entry that is being embedded. -/
def inHand : Phase → List Item
  | .embedding item _ => [item]
  | .writing _ _ next => next.inHand
  | .idle | .stopped | .broken => []

end Phase

/-- The entries that a worker holds, in the order in which they came. -/
def Worker.items (k : Worker) : List Item :=
  k.phase.batch.map itemOf ++ k.pending.pending.map itemOf ++ k.phase.inHand ++ k.queue

/-- An entry that joins the queue is the last one that a worker holds. -/
theorem Worker.items_enqueue (k : Worker) (x : Item) :
    ({ k with queue := k.queue ++ [x] } : Worker).items = k.items ++ [x] := by
  rw [items, items, ← List.append_assoc]

/-- The entries that are held by workers. -/
def World.held (w : World) : List Item :=
  w.workers.flatMap Worker.items

/-! ### Fates -/

/-- What becomes of an entry that has entered a queue. -/
inductive Fate where
  | stored
  | dropped
  | duplicate
  | failed
  /-- The worker that held it broke. -/
  | lost
  deriving DecidableEq, Repr

/-- The total that counts a fate; entries that are lost with their worker are not counted. -/
def Fate.total (t : Totals) : Fate → UInt64
  | .stored => t.recordsStored
  | .dropped => t.recordsDropped
  | .duplicate => t.duplicatesSuppressed
  | .failed => t.embeddingFailures
  | .lost => 0

/-- Entries that are no longer held with their fates, first one first. -/
abbrev Ledger := List (Item × Fate)

namespace Ledger

/-- Some entries that meet one fate. -/
def all (f : Fate) (xs : List Item) : Ledger :=
  xs.map (·, f)

/-- The entries of a ledger. -/
def items (l : Ledger) : List Item :=
  l.map Prod.fst

/-- The entries that met a fate. -/
def met (l : Ledger) (f : Fate) : List Item :=
  (l.filter (·.2 = f)).map Prod.fst

@[simp] theorem items_nil : items [] = [] := rfl

@[simp] theorem items_append (l l' : Ledger) : items (l ++ l') = l.items ++ l'.items :=
  List.map_append

@[simp] theorem items_all (f : Fate) (xs : List Item) : (all f xs).items = xs := by
  simp [all, items, Function.comp_def]

@[simp] theorem met_nil (f : Fate) : met [] f = [] := rfl

@[simp] theorem met_append (l l' : Ledger) (f : Fate) :
    met (l ++ l') f = l.met f ++ l'.met f := by
  simp [met]

theorem met_all (f g : Fate) (xs : List Item) :
    (all f xs).met g = if f = g then xs else [] := by
  by_cases h : f = g
  · simp [all, met, h, List.filter_map, Function.comp_def]
  · simp [all, met, h, List.filter_map, Function.comp_def]

/-- Every entry of a ledger met one of the fates. -/
theorem length_items (l : Ledger) :
    l.items.length = (l.met .stored).length + (l.met .dropped).length +
      (l.met .duplicate).length + (l.met .failed).length + (l.met .lost).length := by
  induction l with
  | nil => rfl
  | cons p l ih =>
    obtain ⟨x, f⟩ := p
    simp only [items, met, List.length_map, List.length_cons] at ih ⊢
    cases f <;> simp <;> omega

theorem met_sublist (l : Ledger) (f : Fate) : (l.met f).Sublist l.items :=
  List.filter_sublist.map _

end Ledger

/-- What leaves with the next step of a worker. -/
def World.departures (w : World) (i : Nat) : Ledger :=
  match w.workers[i]? with
  | none => []
  | some k =>
    if w.isOver then .all .dropped k.items
    else
      match k.phase with
      | .embedding item call =>
        if w.isDue k.pending.deadline? then []
        else
          match w.embedProgress item call with
          | .ended (.gives v) =>
            match (w.considered k item v).1 with
            | .suppress => .all .duplicate [item]
            | .accept => []
          | .ended (.fails _) => .all .failed [item]
          | .ended .breaks => .all .lost k.items
          | .began _ | .moved _ | .blocked => []
      | .writing batch call _ =>
        match w.writeProgress call with
        | .ended (.gives _) => .all .stored (batch.map itemOf)
        | .ended (.fails _) => .all .dropped (batch.map itemOf)
        | .ended .breaks => .all .lost k.items
        | .began _ | .moved _ | .blocked => []
      | .idle | .stopped | .broken => []

/-! ### What is counted -/

namespace Fate

/-- What the counts of an event add to the total of a fate. -/
def share (f : Fate) : Event → UInt64
  | .batchFlushed n => if f = .stored then n else 0
  | .batchDropped n | .recordsDropped n => if f = .dropped then n else 0
  | .duplicateSuppressed => if f = .duplicate then 1 else 0
  | .embeddingFailure => if f = .failed then 1 else 0
  | .request _ | .recordsAccepted _ | .recordRejected _ | .storageRetry => 0

@[simp] theorem total_add (f : Fate) (m : Metrics) (e : Event) :
    f.total (m.add e).totals = f.total m.totals + f.share e := by
  cases f <;> cases e <;> simp [Fate.total, Fate.share, Metrics.add, Totals.add]

/-- The events that count everything that a worker holds as lost count each entry once. -/
theorem total_losses (f : Fate) (k : Worker) (m : Metrics) :
    f.total (k.losses.foldl Metrics.add m).totals =
      f.total m.totals + UInt64.ofNat (if f = .dropped then k.items.length else 0) := by
  -- The points that wait and the queue are counted whatever the worker was doing.
  have habandoned : ∀ m : Metrics, f.total (k.abandoned.foldl Metrics.add m).totals =
      f.total m.totals + UInt64.ofNat
        (if f = .dropped then k.pending.pending.length + k.queue.length else 0) := by
    intro m
    by_cases hp : k.pending.isEmpty
    · have hnil : k.pending.pending = [] := by simpa [Accumulator.isEmpty] using hp
      by_cases h : f = .dropped <;> simp [Worker.abandoned, share, hp, hnil, h]
    · by_cases h : f = .dropped <;>
        simp [Worker.abandoned, Accumulator.size, share, hp, h, UInt64.add_assoc]
  by_cases h : f = .dropped
  · subst h
    cases hphase : k.phase with
    | idle | stopped | broken =>
      simp [Worker.losses, Worker.items, Phase.batch, Phase.inHand, hphase, habandoned]
    | embedding item call =>
      simp [Worker.losses, Worker.items, Phase.batch, Phase.inHand, hphase, habandoned, share]
      ac_rfl
    | writing batch call next =>
      cases next <;>
        simp [Worker.losses, Worker.items, Phase.batch, Phase.inHand, Next.inHand, hphase,
          habandoned, share] <;> ac_rfl
  · cases hphase : k.phase with
    | idle | embedding _ _ | stopped | broken =>
      simp [Worker.losses, hphase, habandoned, share, h]
    | writing batch call next =>
      cases next <;> simp [Worker.losses, hphase, habandoned, share, h]

end Fate

namespace World

/-! ### A step of a worker and the ledger -/

/-- A worker has become another one in a step, in which some entries left. -/
structure Handover (w v : World) (i : Nat) (k k' : Worker) (gone : Ledger) : Prop where
  workers : v.workers = w.workers.set i k'
  /-- What was held before has left or is still held. -/
  items : (gone.items ++ k'.items).Perm k.items
  /-- What is stored came before all that is still held, in the same order. -/
  order : (gone.met .stored ++ k'.items).Sublist k.items
  /-- Whatever leaves is counted. -/
  totals : ∀ f ≠ Fate.lost, f.total v.metrics.totals =
    f.total w.metrics.totals + UInt64.ofNat (gone.met f).length
  /-- Entries are lost only with a worker that breaks. -/
  lost : gone.met .lost = [] ∨ k'.phase = .broken

variable {w v : World} {i : Nat} {k k' : Worker}

/-- A step in which nothing leaves. -/
private theorem Handover.ofKept (hworkers : v.workers = w.workers.set i k')
    (hitems : k'.items = k.items)
    (htotals : ∀ f : Fate, f.total v.metrics.totals = f.total w.metrics.totals) :
    Handover w v i k k' [] where
  workers := hworkers
  items := by rw [hitems]; exact .refl _
  order := by rw [hitems]; exact .refl _
  totals f _ := by simp [htotals f]
  lost := .inl rfl

/-- A step in which entries leave that are not stored. -/
private theorem Handover.ofLost {f : Fate} {xs : List Item}
    (hworkers : v.workers = w.workers.set i k') (hf : f ≠ .stored)
    (hitems : (xs ++ k'.items).Perm k.items) (horder : k'.items.Sublist k.items)
    (htotals : ∀ g ≠ Fate.lost, g.total v.metrics.totals =
      g.total w.metrics.totals + UInt64.ofNat (if f = g then xs.length else 0))
    (hlost : f ≠ .lost ∨ k'.phase = .broken) : Handover w v i k k' (.all f xs) where
  workers := hworkers
  items := by rw [Ledger.items_all]; exact hitems
  order := by rw [Ledger.met_all, if_neg hf]; exact horder
  totals g hg := by
    rw [htotals g hg, Ledger.met_all]
    split <;> rfl
  lost := by
    rcases hlost with hf | hphase
    · rw [Ledger.met_all, if_neg hf]
      exact .inl rfl
    · exact .inr hphase

/-- The worker that is left when a batch is given up or a backend breaks holds nothing. -/
theorem items_leave (k : Worker) (p : Phase) (hp : p = .stopped ∨ p = .broken) :
    (k.leave p).items = [] := by
  rcases hp with rfl | rfl <;> rfl

/-- Points that wait go on to the batch that is written. -/
theorem items_flush (b : Backoff) (k : Worker) {next : Next} (hbatch : k.phase.batch = [])
    (hhand : k.phase.inHand = next.inHand) : (k.flush b next).items = k.items := by
  by_cases hp : k.pending.isEmpty
  · have hnil : k.pending.pending = [] := by simpa [Accumulator.isEmpty] using hp
    cases next <;>
      simp_all [Worker.flush, Worker.proceed, Worker.items, Phase.batch, Phase.inHand,
        Accumulator.cleared, Next.inHand]
  · cases next <;>
      simp_all [Worker.flush, Worker.items, Phase.batch, Phase.inHand, Accumulator.cleared]

/-- The entry at hand goes on to the points that wait. -/
theorem items_collect {item : Item} {call : Call Embedding}
    (hphase : k.phase = .embedding item call) (d : Deduplicator) (x : Embedding) (now : Nat) :
    (k.collect d item x now).items = k.items := by
  simp [Worker.collect, Worker.items, hphase, Phase.batch, Phase.inHand, Accumulator.push,
    itemOf]

/-- What is left of a worker when its batch has been written or dropped. -/
theorem items_eq_batch_append {batch : Batch} {call : Call Unit} {next : Next}
    (hphase : k.phase = .writing batch call next) (d : Deduplicator) :
    k.items = batch.map itemOf ++ ({ k with dedup := d }.proceed next).items := by
  cases next <;>
    simp [Worker.items, hphase, Phase.batch, Phase.inHand, Next.inHand, Worker.proceed]

theorem departures_of_idle (hk : w.workers[i]? = some k) (hover : w.isOver = false)
    (hphase : k.phase = .idle) : w.departures i = [] := by
  simp only [departures, hk, hover, hphase, Bool.false_eq_true, if_false]

/-- The points that wait go first. -/
theorem departures_of_due (hk : w.workers[i]? = some k) (hover : w.isOver = false)
    {item : Item} {call : Call Embedding} (hphase : k.phase = .embedding item call)
    (hdue : w.isDue k.pending.deadline? = true) : w.departures i = [] := by
  simp only [departures, hk, hover, hphase, hdue, Bool.false_eq_true, if_false, if_true]

theorem departures_of_embedding (hk : w.workers[i]? = some k) (hover : w.isOver = false)
    {item : Item} {call : Call Embedding} (hphase : k.phase = .embedding item call)
    (hdue : w.isDue k.pending.deadline? = false) :
    w.departures i = match w.embedProgress item call with
      | .ended (.gives x) =>
        match (w.considered k item x).1 with
        | .suppress => .all .duplicate [item]
        | .accept => []
      | .ended (.fails _) => .all .failed [item]
      | .ended .breaks => .all .lost k.items
      | .began _ | .moved _ | .blocked => [] := by
  simp only [departures, hk, hover, hphase, hdue, Bool.false_eq_true, if_false]

theorem departures_of_writing (hk : w.workers[i]? = some k) (hover : w.isOver = false)
    {batch : Batch} {call : Call Unit} {next : Next}
    (hphase : k.phase = .writing batch call next) :
    w.departures i = match w.writeProgress call with
      | .ended (.gives _) => .all .stored (batch.map itemOf)
      | .ended (.fails _) => .all .dropped (batch.map itemOf)
      | .ended .breaks => .all .lost k.items
      | .began _ | .moved _ | .blocked => [] := by
  simp only [departures, hk, hover, hphase, Bool.false_eq_true, if_false]

/-- A step in which the entry at hand leaves. -/
private theorem Handover.ofHand {f : Fate} {item : Item} {call : Call Embedding}
    {d : Deduplicator} (hphase : k.phase = .embedding item call) (hf : f ≠ .stored)
    (hlost : f ≠ .lost)
    (hworkers : v.workers = w.workers.set i { k with dedup := d, phase := .idle })
    (htotals : ∀ g ≠ Fate.lost, g.total v.metrics.totals =
      g.total w.metrics.totals + UInt64.ofNat (if f = g then 1 else 0)) :
    Handover w v i k { k with dedup := d, phase := .idle } (.all f [item]) := by
  refine .ofLost hworkers hf ?_ ?_ htotals (.inl hlost)
  · have hmiddle : (k.pending.pending.map itemOf ++ item :: k.queue).Perm
        (item :: (k.pending.pending.map itemOf ++ k.queue)) := List.perm_middle
    simpa [Worker.items, hphase, Phase.batch, Phase.inHand] using hmiddle.symm
  · simp [Worker.items, hphase, Phase.batch, Phase.inHand]

/-- **What a step of a worker does to the ledger.** -/
theorem Works.handover (h : w.Works i k v) (hk : w.workers[i]? = some k) :
    ∃ k', Handover w v i k k' (w.departures i) := by
  cases h with
  | leaves readings dedup hgone hover =>
    have hd : w.departures i = .all .dropped k.items := by simp [departures, hk, hover]
    rw [hd]
    refine ⟨_, .ofLost rfl (by decide) ?_ ?_ (fun g hg => ?_) (.inl (by decide))⟩
    · rw [items_leave _ _ (.inl rfl), List.append_nil]
    · rw [items_leave _ _ (.inl rfl)]
      exact List.nil_sublist _
    · rw [Fate.total_losses]
      simp only [eq_comm]
  | breaks hover hstep =>
    have hd : w.departures i = .all .lost k.items := by
      obtain ⟨item, call, hphase, hdue, hstep⟩ | ⟨batch, call, next, hphase, hstep⟩ := hstep
      · rw [departures_of_embedding hk hover hphase hdue, hstep]
      · rw [departures_of_writing hk hover hphase, hstep]
    rw [hd]
    refine ⟨_, .ofLost rfl (by decide) ?_ ?_ (fun g hg => ?_) (.inr rfl)⟩
    · rw [items_leave _ _ (.inr rfl), List.append_nil]
    · rw [items_leave _ _ (.inr rfl)]
      exact List.nil_sublist _
    · simp [breakDown, hg.symm]
  | flushes hphase hover hdue =>
    rw [departures_of_idle hk hover hphase]
    exact ⟨_, .ofKept rfl (items_flush _ _ (by simp [hphase, Phase.batch])
      (by simp [hphase, Phase.inHand, Next.inHand])) fun _ => rfl⟩
  | interrupts hphase hover hdue =>
    rw [departures_of_due hk hover hphase hdue]
    exact ⟨_, .ofKept rfl (items_flush _ _ (by simp [hphase, Phase.batch])
      (by simp [hphase, Phase.inHand, Next.inHand])) fun _ => rfl⟩
  | drains hphase hover hdue hqueue hclosed hnone =>
    rw [departures_of_idle hk hover hphase]
    exact ⟨_, .ofKept rfl (items_flush _ _ (by simp [hphase, Phase.batch])
      (by simp [hphase, Phase.inHand, Next.inHand])) fun _ => rfl⟩
  | takes hphase hover hdue hqueue =>
    rw [departures_of_idle hk hover hphase]
    refine ⟨_, .ofKept rfl ?_ fun _ => rfl⟩
    simp [Worker.items, hphase, hqueue, Phase.batch, Phase.inHand]
  | asks hphase hover hdue hstep | rests hphase hover hdue hstep =>
    rw [departures_of_embedding hk hover hphase hdue, hstep]
    refine ⟨_, .ofKept rfl ?_ fun _ => rfl⟩
    simp [Worker.items, hphase, Phase.batch, Phase.inHand]
  | fails hphase hover hdue hstep =>
    rw [departures_of_embedding hk hover hphase hdue, hstep]
    refine ⟨_, .ofHand (d := k.dedup) hphase (by decide) (by decide) rfl fun g _ => ?_⟩
    simp only [setWorker, count, Fate.total_add, Fate.share, eq_comm]
    split <;> rfl
  | suppresses hphase hover hdue hstep hdecision =>
    rw [departures_of_embedding hk hover hphase hdue, hstep]
    simp only [hdecision]
    refine ⟨_, .ofHand hphase (by decide) (by decide) rfl fun g _ => ?_⟩
    simp only [setWorker, count, Fate.total_add, Fate.share, eq_comm]
    split <;> rfl
  | collects hphase hover hdue hstep hdecision hroom =>
    rw [departures_of_embedding hk hover hphase hdue, hstep]
    simp only [hdecision]
    exact ⟨_, .ofKept rfl (items_collect hphase _ _ _) fun _ => rfl⟩
  | fills hphase hover hdue hstep hdecision hfull =>
    rw [departures_of_embedding hk hover hphase hdue, hstep]
    simp only [hdecision]
    refine ⟨_, .ofKept rfl ?_ fun _ => rfl⟩
    rw [items_flush _ _ rfl rfl, items_collect hphase]
  | writes hphase hover hstep =>
    rw [departures_of_writing hk hover hphase, hstep]
    refine ⟨_, .ofKept rfl ?_ fun f => ?_⟩
    · simp [Worker.items, hphase, Phase.batch, Phase.inHand]
    · simp only [setWorker]
      split
      · simp [Fate.share]
      · rfl
  | pauses hphase hover hstep =>
    rw [departures_of_writing hk hover hphase, hstep]
    refine ⟨_, .ofKept rfl ?_ fun _ => rfl⟩
    simp [Worker.items, hphase, Phase.batch, Phase.inHand]
  | stores hphase hover hstep =>
    rw [departures_of_writing hk hover hphase, hstep]
    have hitems := items_eq_batch_append hphase (k.dedup.expire w.fineNow)
    refine ⟨_, rfl, ?_, ?_, fun g _ => ?_, .inl (by simp [Ledger.met_all])⟩
    · rw [Ledger.items_all, ← hitems]
    · rw [Ledger.met_all, if_pos rfl]
      exact hitems ▸ .refl _
    · simp only [setWorker, count, Fate.total_add, Fate.share, Ledger.met_all, eq_comm]
      split <;> simp
  | drops hphase hover hstep =>
    rw [departures_of_writing hk hover hphase, hstep]
    have hitems := items_eq_batch_append hphase (k.dedup.expire w.fineNow)
    refine ⟨_, .ofLost rfl (by decide) ?_ ?_ (fun g _ => ?_) (.inl (by decide))⟩
    · rw [← hitems]
    · rw [hitems]
      exact List.sublist_append_right _ _
    · simp only [setWorker, count, Fate.total_add, Fate.share, List.length_map, eq_comm]
      split <;> rfl

end World

end LogIntake.Pipeline
