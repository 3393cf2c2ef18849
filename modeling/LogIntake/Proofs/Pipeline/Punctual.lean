import LogIntake.Proofs.Call
import LogIntake.Proofs.Pipeline.Conservation

/-!
# Punctual runs

Where everything happens promptly, time passes only when nothing else can happen, and never past a
time at which something could. So nobody is late: the clock never passes the end of an offer's
wait, nor the deadline of a worker that is still running, nor the time at which the points that
wait must be taken out, nor one at which a write can go on (`World.Punctual`).

For the points that wait it matters that a worker looks at their age whenever it holds any.
`Worker.Tidy` says so: no points wait while a batch is being written, and an accumulator is
opened exactly while it holds something. That holds in all runs; `ReachesPromptly.punctual` is
about those in which everything happens promptly.
-/

namespace LogIntake

/-! ### Accumulators on a clock -/

namespace Accumulator

variable {α : Type}

/-- An accumulator is opened exactly while items wait, and was opened in the past. -/
structure WellTimed (a : Accumulator α) (now : Nat) : Prop where
  opened : a.openedAt.isSome = !a.isEmpty
  past : ∀ t, a.openedAt = some t → t ≤ now

variable {a : Accumulator α} {now : Nat}

theorem wellTimed_empty (maxSize maxAge now : Nat) :
    (empty maxSize maxAge : Accumulator α).WellTimed now :=
  ⟨rfl, nofun⟩

theorem wellTimed_cleared (a : Accumulator α) (now : Nat) : a.cleared.WellTimed now :=
  ⟨rfl, nofun⟩

theorem openedAt_push (a : Accumulator α) (x : α) (now : Nat) :
    (a.push x now).openedAt = if a.isEmpty then some now else a.openedAt := rfl

@[simp] theorem isEmpty_push (a : Accumulator α) (x : α) (now : Nat) :
    (a.push x now).isEmpty = false := by
  simp [push, isEmpty]

theorem WellTimed.push (h : a.WellTimed now) (x : α) : (a.push x now).WellTimed now := by
  have hopened := h.opened
  refine ⟨?_, fun t ht => ?_⟩
  · rw [isEmpty_push, openedAt_push]
    cases hempty : a.isEmpty with
    | true => rfl
    | false => simpa [hempty] using hopened
  · rw [openedAt_push] at ht
    split at ht
    · exact Nat.le_of_eq (Option.some.inj ht).symm
    · exact h.past t ht

theorem WellTimed.mono (h : a.WellTimed now) {now' : Nat} (hle : now ≤ now') :
    a.WellTimed now' :=
  ⟨h.opened, fun t ht => Nat.le_trans (h.past t ht) hle⟩

/-- An accumulator that holds something has been opened. -/
theorem WellTimed.exists_openedAt (h : a.WellTimed now) (hsome : a.pending ≠ []) :
    ∃ t, a.openedAt = some t ∧ t ≤ now := by
  have hopened := h.opened
  rw [isEmpty, List.isEmpty_eq_false_iff.mpr hsome] at hopened
  obtain ⟨t, ht⟩ := Option.isSome_iff_exists.mp hopened
  exact ⟨t, ht, h.past t ht⟩

/-- An empty accumulator has no deadline. -/
theorem WellTimed.deadline?_eq_none (h : a.WellTimed now) (hnil : a.pending = []) :
    a.deadline? = none := by
  have hopened := h.opened
  simp only [isEmpty, hnil, List.isEmpty_nil, Bool.not_true, Option.isSome_eq_false_iff,
    Option.isNone_iff_eq_none] at hopened
  rw [deadline?, hopened, Option.map_none]

/-- The deadline after an item was added is still to come, or is the one from before. -/
theorem deadline?_push {x : α} {t : Nat} (h : (a.push x now).deadline? = some t) :
    now ≤ t ∨ a.deadline? = some t := by
  rw [deadline?, openedAt_push] at h
  split at h
  · obtain rfl : now + a.maxAge = t := Option.some.inj h
    exact .inl (Nat.le_add_right _ _)
  · exact .inr h

end Accumulator

namespace Pipeline

/-! ### Workers and their points -/

/-- Whether points may wait for the next batch. -/
def Phase.mayHold : Phase → Bool
  | .idle | .embedding _ _ => true
  | .writing _ _ _ | .stopped | .broken => false

/-- What holds of a worker and the points that wait with it, at a time. -/
structure Worker.Tidy (s : Settings) (now : Nat) (k : Worker) : Prop where
  pending : k.pending.WellTimed now
  maxAge : k.pending.maxAge = s.maxBatchAge
  /-- While a batch is written, and after the worker is gone, no points wait. -/
  nothing : k.phase.mayHold = false → k.pending.pending = []

namespace Worker

variable {s : Settings} {now : Nat} {k : Worker}

theorem tidy_start (s : Settings) (now : Nat) : (start s).Tidy s now :=
  ⟨Accumulator.wellTimed_empty _ _ _, rfl, nofun⟩

theorem Tidy.mono (h : k.Tidy s now) {now' : Nat} (hle : now ≤ now') : k.Tidy s now' :=
  ⟨h.pending.mono hle, h.maxAge, h.nothing⟩

/-- A worker without points that wait is tidy whatever it does. -/
theorem Tidy.cleared (h : k.Tidy s now) {k' : Worker} (hp : k'.pending = k.pending.cleared) :
    k'.Tidy s now := by
  refine ⟨?_, ?_, fun _ => ?_⟩
  · rw [hp]
    exact Accumulator.wellTimed_cleared _ _
  · rw [hp]
    exact h.maxAge
  · rw [hp]
    rfl

theorem Tidy.leave (h : k.Tidy s now) (d : Deduplicator) (p : Phase) :
    ({ k with dedup := d }.leave p).Tidy s now :=
  h.cleared rfl

/-- Points that wait are taken out to be written. -/
theorem flush_of_some (b : Backoff) (next : Next) (h : k.pending.isEmpty = false) :
    k.flush b next = { k with
      phase := .writing k.pending.pending (.start b) next
      pending := k.pending.cleared } := by
  rw [flush, if_neg (by simp [h])]

theorem Tidy.flush (h : k.Tidy s now) (b : Backoff) (next : Next) :
    (k.flush b next).Tidy s now :=
  h.cleared (pending_flush b k next)

/-- A worker that goes from one phase to another one keeps its points. -/
theorem Tidy.moved (h : k.Tidy s now) {k' : Worker} (hp : k'.pending = k.pending)
    (hphase : k'.phase.mayHold = false → k.phase.mayHold = false) : k'.Tidy s now := by
  refine ⟨?_, ?_, fun hhold => ?_⟩
  · rw [hp]
    exact h.pending
  · rw [hp]
    exact h.maxAge
  · rw [hp]
    exact h.nothing (hphase hhold)

theorem Tidy.proceed (h : k.Tidy s now) (hnil : k.pending.pending = []) (d : Deduplicator)
    (next : Next) : ({ k with dedup := d }.proceed next).Tidy s now := by
  refine ⟨?_, ?_, fun _ => ?_⟩
  · rw [pending_proceed]
    exact h.pending
  · rw [pending_proceed]
    exact h.maxAge
  · rw [pending_proceed]
    exact hnil

theorem Tidy.collect (h : k.Tidy s now) (d : Deduplicator) (item : Item) (x : Embedding) :
    (k.collect d item x now).Tidy s now :=
  ⟨h.pending.push _, h.maxAge, nofun⟩

/-- Points wait only with a worker that looks at their age. -/
theorem Tidy.mayHold (h : k.Tidy s now) (hsome : k.pending.pending ≠ []) :
    k.phase.mayHold = true := by
  by_contra hhold
  exact hsome (h.nothing (by simpa using hhold))

/-- Points that must be taken out are there. -/
theorem Tidy.isEmpty_of_isDue {w : World} (h : k.Tidy s w.now)
    (hdue : w.isDue k.pending.deadline? = true) : k.pending.isEmpty = false := by
  by_contra hempty
  have hnil : k.pending.pending = [] := by simpa [Accumulator.isEmpty] using hempty
  rw [h.pending.deadline?_eq_none hnil] at hdue
  cases hdue

end Worker

/-! ### Offers and their waits -/

namespace Offer

/-- What goes on to wait does so for the same worker, until the same time as before. -/
def SameWait (o o' : Offer) : Prop :=
  ∀ till granted, o'.state = .waiting till granted →
    o'.worker = o.worker ∧ ∃ g, o.state = .waiting till g

theorem SameWait.refl (o : Offer) : o.SameWait o :=
  fun _ g h => ⟨rfl, g, h⟩

/-- What has its answer does not wait. -/
theorem SameWait.ofSettled {o o' : Offer} (h : o'.isSettled = true) : o.SameWait o' :=
  fun till granted hstate => by simp [isSettled, hstate] at h

theorem SameWait.ofGranted {o : Offer} {till : Nat} (h : o.state = .waiting till false) :
    o.SameWait { o with state := .waiting till true } := by
  intro till' granted hstate
  cases hstate
  exact ⟨rfl, false, h⟩

end Offer

namespace World

variable {w v : World} {i : Nat} {k k' : Worker}

/-- All workers are tidy. -/
def Tidy (w : World) : Prop :=
  ∀ k ∈ w.workers, k.Tidy w.settings w.now

theorem tidy_start (s : Settings) (c : Client) (b : Backend) : (start s c b).Tidy := by
  intro k hk
  rw [List.eq_of_mem_replicate hk]
  exact Worker.tidy_start s 0

/-- A step of a worker leaves it tidy. -/
theorem Works.tidy (h : w.Works i k v) (hk : k.Tidy w.settings w.now) :
    ∃ k', v.workers = w.workers.set i k' ∧ k'.Tidy w.settings w.now := by
  cases h
  case leaves readings dedup hgone hover => exact ⟨_, rfl, hk.leave dedup .stopped⟩
  case breaks => exact ⟨_, rfl, hk.leave k.dedup .broken⟩
  case flushes | interrupts | drains => exact ⟨_, rfl, hk.flush _ _⟩
  case collects => exact ⟨_, rfl, hk.collect _ _ _⟩
  case fills => exact ⟨_, rfl, (hk.collect _ _ _).flush _ _⟩
  case stores hphase _ _ | drops hphase _ _ =>
    exact ⟨_, rfl, hk.proceed (hk.nothing (by rw [hphase]; rfl)) _ _⟩
  case writes hphase _ _ | pauses hphase _ _ =>
    exact ⟨_, rfl, hk.moved rfl fun _ => by rw [hphase]; rfl⟩
  -- The others leave the worker idle or with an entry that is being embedded.
  all_goals exact ⟨_, rfl, hk.moved rfl nofun⟩

theorem Works.tidy_all (h : w.Works i k v) (hk : w.workers[i]? = some k) (hw : w.Tidy) :
    v.Tidy := by
  obtain ⟨k', hworkers, htidy⟩ := h.tidy (hw k (List.mem_of_getElem? hk))
  intro l hl
  rw [h.frame.settings, h.frame.now]
  rw [hworkers] at hl
  rcases List.mem_or_eq_of_mem_set hl with hl | rfl
  · exact hw l hl
  · exact htidy

/-- An entry that joins the queue of a worker. -/
private theorem Tidy.enter (hw : w.Tidy) (hk : w.workers[i]? = some k) (e : Entry) :
    ∀ l ∈ (w.enter i k e).workers, l.Tidy w.settings w.now := by
  intro l hl
  rcases List.mem_or_eq_of_mem_set hl with hl | rfl
  · exact hw l hl
  · exact (hw k (List.mem_of_getElem? hk)).moved rfl id

private theorem Occurs.tidy_all (h : w.Occurs v) (hw : w.Tidy) : v.Tidy := by
  cases h with
  | turnsAway | delays | givesUp | closes | stops => exact hw
  | admits e hk => exact hw.enter hk e
  | letsIn ho hstate hk => exact hw.enter hk _
  | passes hlater => exact fun k hk => (hw k hk).mono (Nat.le_of_lt hlater)

theorem Tidy.apply {a : Action} (hw : w.Tidy) (h : w.apply a = some v) : v.Tidy := by
  obtain ⟨i, k, -, hk, hworks⟩ | ⟨-, hoccurs⟩ := apply_cases h
  · exact hworks.tidy_all hk hw
  · exact hoccurs.tidy_all hw

/-! ### Who cannot go on -/

/-- What is so for a worker that cannot go on by itself now. -/
structure Waits (w : World) (k : Worker) : Prop where
  deadline : k.isGone = false → w.isOver = false
  age : k.phase.mayHold = true → w.isDue k.pending.deadline? = false
  writing : ∀ batch call next, k.phase = .writing batch call next →
    ∀ t ∈ call.stage.alarms, w.now < t

/-- A step of a write is one of its call. -/
theorem goes_of_writeProgress {call : Call Unit} {p : Progress Unit}
    (h : w.writeProgress call = p) : call.Goes w.settings.flushRetry none .queueFull
      (fun _ => w.backend.insert w.writes.length) w.now p :=
  h ▸ Call.goes_step _ _ _ _ _ _

/-- A worker that cannot go on with a batch waits before the deadline, for the end of its write. -/
theorem writeProgress_of_work {batch : Batch} {call : Call Unit} {next : Next}
    (hk : w.workers[i]? = some k) (hphase : k.phase = .writing batch call next)
    (h : w.work i = none) : w.isOver = false ∧ w.writeProgress call = .blocked := by
  simp only [work, hk, hphase, stepWriting, Option.bind_eq_bind, Option.bind_some] at h
  split at h
  · cases h
  · rename_i hover
    refine ⟨by simpa using hover, ?_⟩
    split at h
    case h_6 hblocked => exact hblocked
    all_goals cases h

theorem waits_of_work (hk : w.workers[i]? = some k) (h : w.work i = none) : w.Waits k := by
  cases hphase : k.phase with
  | idle =>
    simp only [work, hk, hphase, stepIdle, Option.bind_eq_bind, Option.bind_some] at h
    split at h
    · cases h
    · rename_i hover
      split at h
      · cases h
      · rename_i hdue
        exact ⟨fun _ => by simpa using hover, fun _ => by simpa using hdue, by simp [hphase]⟩
  | embedding item call =>
    simp only [work, hk, hphase, stepEmbedding, Option.bind_eq_bind, Option.bind_some] at h
    split at h
    · cases h
    · rename_i hover
      split at h
      · cases h
      · rename_i hdue
        exact ⟨fun _ => by simpa using hover, fun _ => by simpa using hdue, by simp [hphase]⟩
  | writing batch call next =>
    obtain ⟨hover, hblocked⟩ := writeProgress_of_work hk hphase h
    refine ⟨fun _ => hover, fun hhold => by simp [hphase, Phase.mayHold] at hhold,
      fun batch' call' next' heq => ?_⟩
    rw [hphase] at heq
    cases heq
    cases goes_of_writeProgress hblocked with
    | waits hlater => exact hlater
  | stopped | broken =>
    exact ⟨fun hgone => by simp [Worker.isGone, hphase] at hgone,
      fun hhold => by simp [hphase, Phase.mayHold] at hhold, by simp [hphase]⟩

/-- An offer that cannot go on by itself is not at the end of its wait. -/
theorem lt_of_settle {t till : Nat} {granted : Bool} {o : Offer} (ho : w.offers[t]? = some o)
    (hstate : o.state = .waiting till granted) (h : w.settle t = none)
    (hk : ∃ k, w.workers[o.worker]? = some k) : w.now < till := by
  obtain ⟨k, hk⟩ := hk
  simp only [settle, ho, hstate, Option.bind_eq_bind, Option.bind_some] at h
  cases granted with
  | true => simp [hk] at h
  | false =>
    by_contra hdue
    simp [Nat.le_of_not_lt hdue] at h

theorem mem_alarms_of_worker (hk : k ∈ w.workers) {t : Nat} (ht : t ∈ w.workerAlarms k) :
    t ∈ w.alarms :=
  List.mem_append_left _ (List.mem_flatMap.mpr ⟨k, hk, ht⟩)

theorem deadline_mem_alarms (hk : k ∈ w.workers) (hgone : k.isGone = false) {d : Nat}
    (hd : w.deadline = some d) : d ∈ w.alarms := by
  refine mem_alarms_of_worker hk ?_
  cases hphase : k.phase <;> simp_all [workerAlarms, Worker.isGone]

theorem age_mem_alarms (hk : k ∈ w.workers) (hhold : k.phase.mayHold = true) {t : Nat}
    (ht : k.pending.deadline? = some t) : t ∈ w.alarms := by
  refine mem_alarms_of_worker hk ?_
  cases hphase : k.phase <;> simp_all [workerAlarms, Phase.mayHold]

theorem write_mem_alarms (hk : k ∈ w.workers) {batch : Batch} {call : Call Unit} {next : Next}
    (hphase : k.phase = .writing batch call next) {t : Nat} (ht : t ∈ call.stage.alarms) :
    t ∈ w.alarms := by
  refine mem_alarms_of_worker hk ?_
  rw [workerAlarms, hphase]
  exact List.mem_append_right _ ht

theorem till_mem_alarms {o : Offer} (ho : o ∈ w.offers) {till : Nat} {granted : Bool}
    (hstate : o.state = .waiting till granted) : till ∈ w.alarms :=
  List.mem_append_right _ (List.mem_flatMap.mpr ⟨o, ho, by simp [offerAlarms, hstate]⟩)

/-! ### Nobody is late -/

/-- The clock has not passed anything that somebody waits for. -/
structure Punctual (w : World) : Prop where
  offers : ∀ o ∈ w.offers, ∀ till granted, o.state = .waiting till granted →
    w.now ≤ till ∧ o.worker < w.workers.length
  deadline : ∀ k ∈ w.workers, k.isGone = false → ∀ d, w.deadline = some d → w.now ≤ d
  age : ∀ k ∈ w.workers, ∀ t, k.pending.deadline? = some t → w.now ≤ t
  writing : ∀ k ∈ w.workers, ∀ batch call next, k.phase = .writing batch call next →
    ∀ t ∈ call.stage.alarms, w.now ≤ t

theorem punctual_start (s : Settings) (c : Client) (b : Backend) : (start s c b).Punctual where
  offers := nofun
  deadline _ _ _ _ hd := by cases hd
  age _ _ _ _ := Nat.zero_le _
  writing _ _ _ _ _ _ _ _ := Nat.zero_le _

/-- Offers that wait after a step have waited before, until the same time. -/
theorem Works.waits (h : w.Works i k v) :
    List.Forall₂ Offer.SameWait w.offers v.offers := by
  cases h
  case leaves | breaks => exact forall₂_refuseWaiting .refl fun _ _ => .ofSettled rfl
  case takes => exact forall₂_grant .refl i fun _ _ hstate => .ofGranted hstate
  all_goals exact List.forall₂_same.mpr fun o _ => .refl o

/-- Offers that wait have waited before, until the same time, or have just been made. -/
theorem Occurs.waits (h : w.Occurs v) : ∃ old new, v.offers = old ++ new ∧
    List.Forall₂ Offer.SameWait w.offers old ∧ ∀ o ∈ new, ∀ till granted,
      o.state = .waiting till granted →
        till = w.now + w.settings.enqueueTimeout ∧ o.worker < w.workers.length := by
  have hsame : List.Forall₂ Offer.SameWait w.offers w.offers :=
    List.forall₂_same.mpr fun o _ => .refl o
  cases h with
  | turnsAway e | admits e => exact ⟨_, _, rfl, hsame, by simp⟩
  | delays e hk =>
    refine ⟨_, _, rfl, hsame, fun o ho till granted hstate => ?_⟩
    obtain rfl := List.mem_singleton.mp ho
    cases hstate
    exact ⟨rfl, (List.getElem?_eq_some_iff.mp hk).1⟩
  | letsIn ho hstate hk =>
    exact ⟨_, [], (List.append_nil _).symm, forall₂_set .refl ho (.ofSettled rfl), nofun⟩
  | givesUp ho hstate hdue =>
    exact ⟨_, [], (List.append_nil _).symm, forall₂_set .refl ho (.ofSettled rfl), nofun⟩
  | closes | stops | passes => exact ⟨_, [], (List.append_nil _).symm, hsame, nofun⟩

private theorem Punctual.waits (hw : w.Punctual) {l : List Offer}
    (h : List.Forall₂ Offer.SameWait w.offers l) {o' : Offer} (ho' : o' ∈ l) {till : Nat}
    {granted : Bool} (hstate : o'.state = .waiting till granted) :
    w.now ≤ till ∧ o'.worker < w.workers.length := by
  obtain ⟨t, ht, rfl⟩ := List.getElem_of_mem ho'
  have ht' : t < w.offers.length := h.length_eq ▸ ht
  obtain ⟨hworker, g, hwaits⟩ := h.get ht' ht till granted hstate
  rw [List.get_eq_getElem, List.get_eq_getElem] at hworker
  rw [hworker]
  exact hw.offers _ (List.getElem_mem ht') till g hwaits

/-- What a step does to the time at which the points of its worker must be taken out. -/
theorem Works.age (h : w.Works i k v) : ∃ k', v.workers = w.workers.set i k' ∧
    ∀ t, k'.pending.deadline? = some t → w.now ≤ t ∨ k.pending.deadline? = some t := by
  have hcleared : ∀ t, k.pending.cleared.deadline? ≠ some t := nofun
  cases h
  case leaves | breaks => exact ⟨_, rfl, fun t ht => absurd ht (hcleared t)⟩
  case flushes | interrupts | drains =>
    exact ⟨_, rfl, fun t ht => absurd (by simpa using ht) (hcleared t)⟩
  case fills =>
    exact ⟨_, rfl, fun t ht => by simp [Worker.collect, Accumulator.cleared,
      Accumulator.deadline?] at ht⟩
  case collects => exact ⟨_, rfl, fun t ht => Accumulator.deadline?_push ht⟩
  case stores | drops => exact ⟨_, rfl, fun t ht => .inr (by simpa using ht)⟩
  all_goals exact ⟨_, rfl, fun t ht => .inr ht⟩

/-- No attempt to write is made, and none is counted as a repetition. -/
structure WritesNothing (w v : World) : Prop where
  writes : v.writes = w.writes
  retries : v.metrics.totals.storageRetries = w.metrics.totals.storageRetries

/-- What a step of a worker means for the batch that it writes. -/
inductive Pursues (w v : World) (k k' : Worker) : Prop where
  /-- An attempt is made. -/
  | begins {batch : Batch} {call call' : Call Unit} {next : Next}
      (hphase : k.phase = .writing batch call next) (hover : w.isOver = false)
      (hstep : w.writeProgress call = .began call')
      (hafter : k'.phase = .writing batch call' next)
      (hwrites : v.writes =
        ⟨w.now, batch, (w.backend.insert w.writes.length).response⟩ :: w.writes)
      (hmetrics : v.metrics =
        if 1 < call'.attempts then w.metrics.add .storageRetry else w.metrics)
  /-- The write goes on without an attempt. -/
  | goesOn {batch : Batch} {call call' : Call Unit} {next : Next}
      (hphase : k.phase = .writing batch call next)
      (hstep : w.writeProgress call = .moved call')
      (hafter : k'.phase = .writing batch call' next) (hquiet : w.WritesNothing v)
  /-- A batch was taken out and is to be written. -/
  | takes {batch : Batch} {next : Next} (hphase : k.phase.mayHold = true)
      (hover : w.isOver = false)
      (hafter : k'.phase = .writing batch (Call.start w.settings.flushRetry) next)
      (hquiet : w.WritesNothing v)
  /-- No batch is being written after the step. -/
  | rests (hafter : ∀ batch call next, k'.phase ≠ .writing batch call next)
      (hquiet : w.WritesNothing v)

private theorem retries_losses (k : Worker) (m : Metrics) :
    (k.losses.foldl Metrics.add m).totals.storageRetries = m.totals.storageRetries := by
  have habandoned : ∀ m : Metrics,
      (k.abandoned.foldl Metrics.add m).totals.storageRetries = m.totals.storageRetries := by
    intro m
    rw [Worker.abandoned]
    split <;> rfl
  rw [Worker.losses]
  split <;> exact habandoned _

private theorem phase_proceed (k : Worker) (next : Next) (batch : Batch) (call : Call Unit)
    (next' : Next) : (k.proceed next).phase ≠ .writing batch call next' := by
  cases next <;> nofun

private theorem Pursues.ofFlush (k l : Worker) (next : Next) (hphase : k.phase.mayHold = true)
    (hover : w.isOver = false) (hquiet : w.WritesNothing v) :
    w.Pursues v k (l.flush w.settings.flushRetry next) := by
  by_cases hempty : l.pending.isEmpty
  · rw [Worker.flush, if_pos hempty]
    exact .rests (phase_proceed _ _) hquiet
  · rw [Worker.flush, if_neg hempty]
    exact .takes hphase hover rfl hquiet

theorem Works.pursues (h : w.Works i k v) :
    ∃ k', v.workers = w.workers.set i k' ∧ w.Pursues v k k' := by
  cases h
  case leaves =>
    refine ⟨_, rfl, .rests (fun _ _ _ heq => ?_) ⟨rfl, retries_losses _ _⟩⟩
    cases heq
  case flushes hphase hover _ | drains hphase hover _ _ _ _ | interrupts hphase hover _ |
      fills hphase hover _ _ _ _ =>
    exact ⟨_, rfl, .ofFlush _ _ _ (by rw [hphase]; rfl) hover ⟨rfl, rfl⟩⟩
  case writes hphase hover hstep => exact ⟨_, rfl, .begins hphase hover hstep rfl rfl rfl⟩
  case pauses hphase hover hstep => exact ⟨_, rfl, .goesOn hphase hstep rfl ⟨rfl, rfl⟩⟩
  case stores | drops => exact ⟨_, rfl, .rests (phase_proceed _ _) ⟨rfl, rfl⟩⟩
  all_goals
    refine ⟨_, rfl, .rests (fun _ _ _ heq => ?_) ⟨rfl, rfl⟩⟩
    cases heq

/-- A write that a worker has just begun, or gone on with, goes on later. -/
theorem Pursues.le_alarms (h : w.Pursues v k k') {batch : Batch} {call : Call Unit} {next : Next}
    (hphase : k'.phase = .writing batch call next) : ∀ t ∈ call.stage.alarms, w.now ≤ t := by
  cases h with
  | begins _ _ hstep hafter =>
    cases hafter.symm.trans hphase
    exact (goes_of_writeProgress hstep).le_alarms (.inl rfl)
  | goesOn _ hstep hafter =>
    cases hafter.symm.trans hphase
    exact (goes_of_writeProgress hstep).le_alarms (.inr rfl)
  | takes _ _ hafter =>
    cases hafter.symm.trans hphase
    nofun
  | rests hafter => exact absurd hphase (hafter _ _ _)

theorem Punctual.works (hw : w.Punctual) (h : w.Works i k v) (hk : w.workers[i]? = some k) :
    v.Punctual := by
  obtain ⟨k', hworkers, hage⟩ := h.age
  obtain ⟨k'', hworkers', hpursues⟩ := h.pursues
  obtain rfl : k'' = k' := eq_of_getElem?_set hk (by rw [← hworkers', hworkers,
    getElem?_set_worker hk])
  have hmem : k ∈ w.workers := List.mem_of_getElem? hk
  refine ⟨fun o' ho' till granted hstate => ?_, fun l hl hgone d hd => ?_, fun l hl t ht => ?_,
    fun l hl batch call next hphase => ?_⟩
  · rw [h.frame.now, hworkers, List.length_set]
    exact hw.waits h.waits ho' hstate
  · rw [h.frame.now]
    rw [h.frame.deadline] at hd
    -- The worker was running before its step too, so it was not late then.
    exact hw.deadline k hmem h.isGone d hd
  · rw [h.frame.now]
    rw [hworkers] at hl
    rcases List.mem_or_eq_of_mem_set hl with hl | rfl
    · exact hw.age l hl t ht
    · rcases hage t ht with hle | hbefore
      · exact hle
      · exact hw.age k hmem t hbefore
  · rw [h.frame.now]
    rw [hworkers] at hl
    rcases List.mem_or_eq_of_mem_set hl with hl | rfl
    · exact hw.writing l hl batch call next hphase
    · exact hpursues.le_alarms hphase

/-- What happens apart from the steps of workers changes queues at most. -/
theorem Occurs.workers (h : w.Occurs v) : v.workers.length = w.workers.length ∧
    ∀ l ∈ v.workers, ∃ k ∈ w.workers, ∃ queue, l = { k with queue } := by
  have hsame : ∀ l ∈ w.workers, ∃ k ∈ w.workers, ∃ queue, l = { k with queue } :=
    fun l hl => ⟨l, hl, l.queue, rfl⟩
  have henter : ∀ {i : Nat} {k : Worker} (e : Entry), w.workers[i]? = some k →
      ∀ l ∈ (w.enter i k e).workers, ∃ k ∈ w.workers, ∃ queue, l = { k with queue } := by
    intro i k e hk l hl
    rcases List.mem_or_eq_of_mem_set hl with hl | rfl
    · exact hsame l hl
    · exact ⟨k, List.mem_of_getElem? hk, _, rfl⟩
  cases h with
  | turnsAway | delays | givesUp | closes | stops | passes => exact ⟨rfl, hsame⟩
  | admits e hk => exact ⟨List.length_set, henter e hk⟩
  | letsIn ho hstate hk => exact ⟨List.length_set, henter _ hk⟩

theorem length_of_apply {a : Action} (h : w.apply a = some v) :
    v.workers.length = w.workers.length := by
  obtain ⟨i, k, -, hk, hworks⟩ | ⟨-, hoccurs⟩ := apply_cases h
  · obtain ⟨k', hv⟩ := hworks.workers hk
    rw [hv, List.length_set]
  · exact hoccurs.workers.1

/-- A deadline is given once, and for later. -/
theorem Occurs.deadline (h : w.Occurs v) : v.deadline = w.deadline ∨
    w.deadline = none ∧ v.now = w.now ∧
      v.deadline = some (w.now + w.settings.shutdownTimeout) := by
  cases h with
  | turnsAway | delays | givesUp | closes | admits | letsIn | passes => exact .inl rfl
  | stops hdeadline => exact .inr ⟨hdeadline, rfl, rfl⟩

/-- While no time passes nothing that happens makes anybody late. -/
theorem Punctual.occurs (hw : w.Punctual) (h : w.Occurs v) (hnow : v.now = w.now) :
    v.Punctual := by
  obtain ⟨hlength, hsame⟩ := h.workers
  refine ⟨fun o' ho' till granted hstate => ?_, fun l hl hgone d hd => ?_, fun l hl t ht => ?_,
    fun l hl batch call next hphase => ?_⟩
  · obtain ⟨old, new, hoffers, hold, hnew⟩ := h.waits
    rw [hnow, hlength]
    rcases List.mem_append.mp (hoffers ▸ ho') with ho' | ho'
    · exact hw.waits hold ho' hstate
    · obtain ⟨rfl, hworker⟩ := hnew o' ho' till granted hstate
      exact ⟨Nat.le_add_right _ _, hworker⟩
  · obtain ⟨k, hk, queue, rfl⟩ := hsame l hl
    rw [hnow]
    rcases h.deadline with hsame | ⟨-, -, hnew⟩
    · exact hw.deadline k hk hgone d (hsame ▸ hd)
    · obtain rfl : w.now + w.settings.shutdownTimeout = d := Option.some.inj (hnew ▸ hd)
      exact Nat.le_add_right _ _
  · obtain ⟨k, hk, queue, rfl⟩ := hsame l hl
    rw [hnow]
    exact hw.age k hk t ht
  · obtain ⟨k, hk, queue, rfl⟩ := hsame l hl
    rw [hnow]
    exact hw.writing k hk batch call next hphase

/-! ### The passing of time -/

theorem isQuiet_iff : w.isQuiet = true ↔
    (∀ i < w.workers.length, w.work i = none) ∧ ∀ t < w.offers.length, w.settle t = none := by
  simp only [isQuiet, Bool.and_eq_true, List.all_eq_true, List.mem_range,
    Option.isNone_iff_eq_none]

/-- Time passes promptly when nothing else can happen, up to a time at which something can. -/
theorem allows_wait {till : Nat} : w.allows (.wait till) = true ↔
    w.isQuiet = true ∧ ∀ t ∈ w.alarms, w.now < t → till ≤ t := by
  simp only [allows, Bool.and_eq_true, List.all_eq_true, Bool.or_eq_true, decide_eq_true_eq]
  refine and_congr_right fun _ => forall₂_congr fun t _ => ?_
  omega

theorem waits_of_isQuiet (h : w.isQuiet = true) (hk : k ∈ w.workers) : w.Waits k := by
  obtain ⟨i, hi, rfl⟩ := List.getElem_of_mem hk
  exact waits_of_work (List.getElem?_eq_getElem hi) ((isQuiet_iff.mp h).1 i hi)

/-- When time passes promptly nobody becomes late by it. -/
theorem Punctual.passes (hw : w.Punctual) (htidy : w.Tidy) {till : Nat}
    (h : w.allows (.wait till) = true) : { w with now := till }.Punctual := by
  obtain ⟨hquiet, halarms⟩ := allows_wait.mp h
  have hsettle := (isQuiet_iff.mp hquiet).2
  refine ⟨fun o ho till' granted hstate => ?_, fun k hk hgone d hd => ?_, fun k hk t ht => ?_,
    fun k hk batch call next hphase t ht => ?_⟩
  · have hworker := (hw.offers o ho till' granted hstate).2
    refine ⟨halarms till' (till_mem_alarms ho hstate) ?_, hworker⟩
    obtain ⟨t, ht, rfl⟩ := List.getElem_of_mem ho
    exact lt_of_settle (List.getElem?_eq_getElem ht) hstate (hsettle t ht)
      ⟨_, List.getElem?_eq_getElem hworker⟩
  · refine halarms d (deadline_mem_alarms hk hgone hd) ?_
    have hover := (waits_of_isQuiet hquiet hk).deadline hgone
    have hd : w.deadline = some d := hd
    simpa [isOver, hd] using hover
  · have hhold : k.phase.mayHold = true := by
      refine (htidy k hk).mayHold fun hnil => ?_
      rw [(htidy k hk).pending.deadline?_eq_none hnil] at ht
      cases ht
    refine halarms t (age_mem_alarms hk hhold ht) ?_
    have hdue := (waits_of_isQuiet hquiet hk).age hhold
    simpa [isDue, ht] using hdue
  · exact halarms t (write_mem_alarms hk hphase ht)
      ((waits_of_isQuiet hquiet hk).writing batch call next hphase t ht)

/-- Only the passing of time moves the clock. -/
theorem now_of_apply {a : Action} (h : w.apply a = some v) (ha : ∀ till, a ≠ .wait till) :
    v.now = w.now := by
  cases a with
  | work i =>
    obtain ⟨k, -, hworks⟩ := works_of_work h
    exact hworks.frame.now
  | offer e =>
    cases h
    rw [World.offer]
    split
    · rfl
    · split
      · rfl
      · split <;> rfl
  | settle t =>
    obtain ⟨o, till, -, ⟨k, -, -, rfl⟩ | ⟨-, -, rfl⟩⟩ := settle_cases h <;> rfl
  | close =>
    cases h
    rfl
  | stop =>
    obtain ⟨-, rfl⟩ := apply_stop h
    rfl
  | wait till => exact absurd rfl (ha till)

/-- Time passes, or the clock stands still. -/
theorem passes_or_stands {a : Action} (h : w.apply a = some v) :
    (∃ till, a = .wait till ∧ w.now < till ∧ v = { w with now := till }) ∨ v.now = w.now := by
  by_cases hwait : ∃ till, a = .wait till
  · obtain ⟨till, rfl⟩ := hwait
    obtain ⟨hlater, hv⟩ := apply_wait h
    exact .inl ⟨till, rfl, hlater, hv⟩
  · exact .inr (now_of_apply h fun till heq => hwait ⟨till, heq⟩)

theorem Punctual.apply {a : Action} (hw : w.Punctual) (htidy : w.Tidy)
    (hallows : w.allows a = true) (h : w.apply a = some v) : v.Punctual := by
  rcases passes_or_stands h with ⟨till, rfl, -, rfl⟩ | hnow
  · exact hw.passes htidy hallows
  · obtain ⟨i, k, -, hk, hworks⟩ | ⟨-, hoccurs⟩ := apply_cases h
    · exact hw.works hworks hk
    · exact hw.occurs hoccurs hnow

end World

/-! ### Runs -/

namespace Reaches

variable {s : Settings} {c : Client} {b : Backend} {w v : World}

theorem tidy (h : Reaches w v) (hw : w.Tidy) : v.Tidy := by
  induction h with
  | refl => exact hw
  | step a _ h ih => exact ih.apply h

theorem tidy_of_start (h : Reaches (.start s c b) w) : w.Tidy :=
  h.tidy (World.tidy_start s c b)

end Reaches

namespace ReachesPromptly

variable {s : Settings} {c : Client} {b : Backend} {w v u : World}

theorem reaches (h : ReachesPromptly w v) : Reaches w v := by
  induction h with
  | refl => exact .refl
  | step a _ _ h ih => exact .step a ih h

theorem trans (h : ReachesPromptly w v) (h' : ReachesPromptly v u) : ReachesPromptly w u := by
  induction h' with
  | refl => exact h
  | step a _ hallows hstep ih => exact .step a ih hallows hstep

/-- **Nobody becomes late** where everything happens promptly. -/
theorem punctual (h : ReachesPromptly w v) (hw : w.Punctual) (htidy : w.Tidy) : v.Punctual := by
  induction h with
  | refl => exact hw
  | step a h hallows hstep ih => exact ih.apply (h.reaches.tidy htidy) hallows hstep

theorem punctual_of_start (h : ReachesPromptly (.start s c b) w) : w.Punctual :=
  h.punctual (World.punctual_start s c b) (World.tidy_start s c b)

end ReachesPromptly

namespace Run

variable {w v : World}

/-- Whether everything happens promptly in a run. -/
def IsPrompt : {v : World} → Run w v → Prop
  | _, .refl => True
  | _, .step (v := v) r a _ => r.IsPrompt ∧ v.allows a = true

theorem reachesPromptly (r : Run w v) (h : r.IsPrompt) : ReachesPromptly w v := by
  induction r with
  | refl => exact .refl
  | step r a hstep ih => exact .step a (ih h.1) h.2 hstep

end Run

theorem ReachesPromptly.run {w v : World} (h : ReachesPromptly w v) :
    ∃ r : Run w v, r.IsPrompt := by
  induction h with
  | refl => exact ⟨.refl, trivial⟩
  | step a _ hallows h ih =>
    obtain ⟨r, hr⟩ := ih
    exact ⟨.step r a h, hr, hallows⟩

/-- The world after some steps, if all of them can happen promptly. -/
def World.follow (w : World) : List Action → Option World
  | [] => some w
  | a :: rest => if w.allows a then (w.apply a).bind (·.follow rest) else none

theorem reachesPromptly_of_follow {as : List Action} {w v : World} (h : w.follow as = some v) :
    ReachesPromptly w v := by
  induction as generalizing w with
  | nil =>
    cases h
    exact .refl
  | cons a rest ih =>
    rw [World.follow] at h
    split at h
    · rename_i hallows
      obtain ⟨u, hstep, hrest⟩ := Option.bind_eq_some_iff.mp h
      exact (ReachesPromptly.step a .refl hallows hstep).trans (ih hrest)
    · cases h

end Pipeline

end LogIntake
