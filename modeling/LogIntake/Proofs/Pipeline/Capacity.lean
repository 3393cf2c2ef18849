import Mathlib.Algebra.Order.BigOperators.Group.List
import Mathlib.Algebra.Order.Group.Nat
import LogIntake.Proofs.Pipeline.Stopping

/-!
# How much a pipeline holds

A queue has a share of the capacity, and room that was granted to a producer counts as taken until
the producer uses it: together they never come to more than the share (`World.Roomy`). A worker
takes its points out in the very step in which they fill a batch, so between steps there is always
room for one more (`Worker.Fits`); that is why an entry at hand never makes a batch too large, not
even one that is embedded while points that have waited long enough are written.

Both hold in all runs, in whatever order producers, workers, timers and the end of the pipeline
come. `boundedMemory` draws the conclusions for what each worker and all of them together hold, and
for every batch that is given to the store.
-/

namespace LogIntake.Pipeline

namespace Settings

variable {s : Settings}

/-- Settings in use allow for batches. -/
theorem maxBatchSize_pos (h : s.check = .ok ()) : 0 < s.maxBatchSize := by
  refine Nat.pos_of_ne_zero fun hzero => ?_
  simp only [check, hzero, if_true] at h
  split at h
  · cases h
  · split at h <;> cases h

/-- The shares of all queues come to no more than the capacity, or to one entry for each queue. -/
theorem workers_mul_queueCapacityPerWorker_le (s : Settings) :
    s.workers * s.queueCapacityPerWorker ≤ max s.queueCapacity s.workers := by
  rcases Nat.eq_zero_or_pos s.workers with hzero | hpos
  · rw [hzero, Nat.zero_mul]
    exact Nat.zero_le _
  · rw [queueCapacityPerWorker, Nat.max_eq_left hpos, ← Nat.mul_max_mul_left]
    refine Nat.max_le.mpr ⟨?_, ?_⟩
    · exact Nat.le_trans (Nat.mul_div_le _ _) (Nat.le_max_left _ _)
    · rw [Nat.mul_one]
      exact Nat.le_max_right _ _

end Settings

namespace World

variable {w v : World} {i : Nat} {k : Worker}

/-! ### Room in the queues -/

section Grants

variable {l : List Offer}

/-- Granting room grants it to one more offer at most. -/
private theorem countP_grant_le (i j : Nat) (l : List Offer) :
    (grant i l).countP (isGrantedBy j) ≤
      l.countP (isGrantedBy j) + if j = i then 1 else 0 := by
  have hfirst : ∀ l : List Offer, (grantFirst i l).countP (isGrantedBy j) ≤
      l.countP (isGrantedBy j) + if j = i then 1 else 0 := by
    intro l
    induction l with
    | nil => exact Nat.zero_le _
    | cons o rest ih =>
      rw [grantFirst, List.countP_cons]
      split
      · rename_i till hstate
        split
        · rename_i hworker
          rw [List.countP_cons]
          by_cases hj : j = i
          · simp only [hj, if_true]
            split <;> omega
          · have hother : isGrantedBy j { o with state := .waiting till true } = false := by
              simp [isGrantedBy, hworker, Ne.symm hj]
            simp [hother, hj]
        · rw [List.countP_cons]
          omega
      · rw [List.countP_cons]
        omega
  rw [grant]
  split
  · exact hfirst l
  · exact Nat.le_add_right _ _

/-- Who is refused has no room any more. -/
private theorem countP_refuseWaiting_le (i j : Nat) (l : List Offer) :
    (refuseWaiting i l).countP (isGrantedBy j) ≤ l.countP (isGrantedBy j) := by
  rw [refuseWaiting, List.countP_map]
  refine List.countP_mono_left fun o _ h => ?_
  simp only [Function.comp] at h
  split at h
  · simp [isGrantedBy] at h
  · exact h

/-- An offer that gets its answer gives back the room that it was granted. -/
private theorem countP_set_settled {t : Nat} {o : Offer} (ho : l[t]? = some o) (o' : Offer)
    (hsettled : o'.isSettled = true) (j : Nat) : (l.set t o').countP (isGrantedBy j) +
      (if isGrantedBy j o then 1 else 0) = l.countP (isGrantedBy j) := by
  have hnone : isGrantedBy j o' = false := by
    cases hstate : o'.state <;> simp_all [isGrantedBy, Offer.isSettled]
  induction l generalizing t with
  | nil => simp at ho
  | cons p l ih =>
    cases t with
    | zero =>
      cases ho
      simp [List.countP_cons, hnone]
    | succ t =>
      have hrest := ih (t := t) ho
      rw [List.set_cons_succ, List.countP_cons, List.countP_cons]
      omega

end Grants

/-- In no queue are there more entries than its share, those included that were granted room. -/
def Roomy (w : World) : Prop :=
  ∀ i k, w.workers[i]? = some k →
    k.queue.length + w.offers.countP (isGrantedBy i) ≤ w.settings.queueCapacityPerWorker

theorem roomy_start (s : Settings) (c : Client) (b : Backend) : (start s c b).Roomy := by
  intro i k hk
  rw [List.eq_of_mem_replicate (List.mem_of_getElem? hk)]
  exact Nat.zero_le _

variable {w v : World} {i : Nat} {k : Worker}

/-- A step of a worker makes no queue longer and grants no room that was not free. -/
private theorem Works.room (h : w.Works i k v) : ∃ k', v.workers = w.workers.set i k' ∧
    k'.queue.length + v.offers.countP (isGrantedBy i) ≤
      k.queue.length + w.offers.countP (isGrantedBy i) ∧
    ∀ j ≠ i, v.offers.countP (isGrantedBy j) ≤ w.offers.countP (isGrantedBy j) := by
  cases h
  case leaves | breaks =>
    have hrefused := countP_refuseWaiting_le i
    exact ⟨_, rfl, Nat.add_le_add (Nat.zero_le _) (hrefused i _), fun j _ => hrefused j _⟩
  case takes item queue hphase hover hdue hqueue =>
    refine ⟨_, rfl, ?_, fun j hj => ?_⟩
    · -- The room that the entry leaves is the room that is granted.
      have hgrant := countP_grant_le i i w.offers
      rw [if_pos rfl] at hgrant
      rw [hqueue, List.length_cons, Nat.add_assoc, Nat.add_comm 1]
      exact Nat.add_le_add_left hgrant _
    · have hgrant := countP_grant_le i j w.offers
      rwa [if_neg hj, Nat.add_zero] at hgrant
  case flushes | interrupts | drains | fills =>
    refine ⟨_, rfl, ?_, fun _ _ => Nat.le_refl _⟩
    rw [Worker.queue_flush]
    exact Nat.le_refl _
  case stores | drops =>
    refine ⟨_, rfl, ?_, fun _ _ => Nat.le_refl _⟩
    rw [Worker.queue_proceed]
    exact Nat.le_refl _
  all_goals exact ⟨_, rfl, Nat.le_refl _, fun _ _ => Nat.le_refl _⟩

theorem Roomy.works (hw : w.Roomy) (h : w.Works i k v) (hk : w.workers[i]? = some k) :
    v.Roomy := by
  obtain ⟨k', hworkers, hself, hothers⟩ := h.room
  intro j l hl
  rw [h.frame.settings]
  by_cases hj : j = i
  · subst hj
    rw [hworkers] at hl
    obtain rfl := eq_of_getElem?_set hk hl
    exact hself.trans (hw j k hk)
  · rw [hworkers, List.getElem?_set_ne (Ne.symm hj)] at hl
    exact (Nat.add_le_add_left (hothers j hj) _).trans (hw j l hl)

/-- An entry joins a queue that has room for it, where it may use room that it was granted. -/
private theorem Roomy.enter (hw : w.Roomy) (hk : w.workers[i]? = some k) {e : Entry}
    {l : List Offer} (hothers : ∀ j ≠ i, l.countP (isGrantedBy j) ≤ w.offers.countP (isGrantedBy j))
    (hroom : k.queue.length + 1 + l.countP (isGrantedBy i) ≤ w.settings.queueCapacityPerWorker) :
    { w.enter i k e with offers := l }.Roomy := by
  intro j m hm
  change (w.workers.set i _)[j]? = some m at hm
  by_cases hj : j = i
  · subst hj
    obtain rfl := eq_of_getElem?_set hk hm
    change (k.queue ++ [_]).length + _ ≤ _
    rwa [List.length_append, List.length_singleton]
  · rw [List.getElem?_set_ne (Ne.symm hj)] at hm
    exact (Nat.add_le_add_left (hothers j hj) _).trans (hw j m hm)

theorem Roomy.occurs (hw : w.Roomy) (h : w.Occurs v) : v.Roomy := by
  -- An offer that was granted nothing leaves the room as it is.
  have hnew : ∀ (o : Offer) (j : Nat), (∀ till, o.state ≠ .waiting till true) →
      (w.offers ++ [o]).countP (isGrantedBy j) = w.offers.countP (isGrantedBy j) := by
    intro o j ho
    have hnone : isGrantedBy j o = false := by
      cases hstate : o.state with
      | waiting till granted => cases granted <;> simp_all [isGrantedBy]
      | accepted _ | refused _ => simp [isGrantedBy, hstate]
    rw [List.countP_append, List.countP_singleton, hnone, if_neg (by simp), Nat.add_zero]
  cases h with
  | turnsAway e | delays e =>
    intro j l hl
    exact (Nat.le_of_eq (congrArg _ (hnew _ j (by simp)))).trans (hw j l hl)
  | admits e hk haccepting hgone hroom =>
    have hfree := of_decide_eq_true hroom
    refine hw.enter hk (fun j _ => Nat.le_of_eq (hnew _ j (by simp))) ?_
    rw [hnew _ _ (by simp)]
    omega
  | @letsIn t till o k ho hstate hk =>
    refine hw.enter hk (fun j _ => ?_) ?_
    · exact Nat.le_trans (Nat.le_add_right _ _) (Nat.le_of_eq (countP_set_settled ho _ rfl j))
    · have hused := countP_set_settled ho { o with state := .accepted w.entered } rfl o.worker
      have hbefore := hw _ _ hk
      simp only [isGrantedBy, hstate, beq_self_eq_true, Bool.and_self, if_true] at hused hbefore
      omega
  | @givesUp t till o ho hstate hdue =>
    intro j l hl
    have hused := countP_set_settled ho { o with state := .refused .queueFull } rfl j
    have hbefore := hw j l hl
    exact (Nat.add_le_add_left (Nat.le_of_add_right_le (Nat.le_of_eq hused)) _).trans hbefore
  | closes | stops | passes => exact hw

theorem Roomy.apply {a : Action} (hw : w.Roomy) (h : w.apply a = some v) : v.Roomy := by
  obtain ⟨i, k, -, hk, hworks⟩ | ⟨-, hoccurs⟩ := apply_cases h
  · exact hw.works hworks hk
  · exact hw.occurs hoccurs

end World

/-! ### Points and batches -/

/-- The number of points in a full batch. -/
def Settings.fullBatch (s : Settings) : Nat :=
  max s.maxBatchSize 1

theorem Settings.fullBatch_pos (s : Settings) : 0 < s.fullBatch :=
  Nat.le_max_right _ _

/-- What a worker holds beside its queue fits into one batch. -/
structure Worker.Fits (s : Settings) (k : Worker) : Prop where
  maxSize : k.pending.maxSize = s.fullBatch
  /-- There is room for the entry at hand. -/
  pending : k.pending.pending.length < s.fullBatch
  /-- A batch that is written is not empty, and the entry that was at hand would have had room in
  it. -/
  batch : ∀ batch call next, k.phase = .writing batch call next →
    0 < batch.length ∧ batch.length + next.inHand.length ≤ s.fullBatch

theorem Next.length_inHand_le (next : Next) : next.inHand.length ≤ 1 := by
  cases next <;> simp [inHand]

theorem Phase.length_inHand_le (p : Phase) : p.inHand.length ≤ 1 := by
  cases p with
  | writing batch call next => exact next.length_inHand_le
  | idle | embedding _ _ | stopped | broken => simp [inHand]

namespace Worker

variable {s : Settings} {k : Worker}

theorem fits_start (s : Settings) : (start s).Fits s := by
  refine ⟨rfl, s.fullBatch_pos, fun batch call next hphase => ?_⟩
  cases hphase

/-- Points that wait are taken out as a batch, which is not too large. -/
theorem fits_flush (b : Backoff) (next : Next) (hmax : k.pending.maxSize = s.fullBatch)
    (hroom : k.pending.pending.length + next.inHand.length ≤ s.fullBatch) :
    (k.flush b next).Fits s := by
  refine ⟨?_, ?_, fun batch call next' hphase => ?_⟩
  · rw [pending_flush]
    exact hmax
  · rw [pending_flush]
    exact s.fullBatch_pos
  · cases hempty : k.pending.isEmpty with
    | true =>
      rw [flush, if_pos hempty] at hphase
      cases next <;> cases hphase
    | false =>
      rw [flush_of_some b next hempty] at hphase
      cases hphase
      exact ⟨List.length_pos_iff.mpr (List.isEmpty_eq_false_iff.mp hempty), hroom⟩

/-- A worker between two steps can take out its points, also while it has an entry at hand. -/
theorem Fits.flush (h : k.Fits s) (b : Backoff) (next : Next) : (k.flush b next).Fits s := by
  refine fits_flush b next h.maxSize ?_
  have hroom := h.pending
  have hhand := next.length_inHand_le
  omega

/-- A worker that goes on to something else than a write keeps its points. -/
theorem Fits.moved (h : k.Fits s) {k' : Worker} (hp : k'.pending = k.pending)
    (hphase : ∀ batch call next, k'.phase ≠ .writing batch call next) : k'.Fits s := by
  refine ⟨?_, ?_, fun batch call next heq => absurd heq (hphase batch call next)⟩
  · rw [hp]
    exact h.maxSize
  · rw [hp]
    exact h.pending

/-- A worker that has given up everything holds no points. -/
theorem Fits.leave (h : k.Fits s) (d : Deduplicator) {p : Phase}
    (hp : p = .stopped ∨ p = .broken) : ({ k with dedup := d }.leave p).Fits s := by
  refine ⟨h.maxSize, s.fullBatch_pos, fun batch call next heq => ?_⟩
  rcases hp with rfl | rfl <;> cases heq

/-- A point that does not fill the batch leaves room for another one. -/
theorem Fits.collect (h : k.Fits s) {d : Deduplicator} {item : Item} {x : Embedding} {now : Nat}
    (hroom : (k.collect d item x now).pending.isFull = false) :
    (k.collect d item x now).Fits s := by
  refine ⟨h.maxSize, ?_, fun batch call next hphase => ?_⟩
  · rw [← h.maxSize]
    exact Nat.lt_of_not_le (of_decide_eq_false hroom)
  · cases hphase

/-- A point that fills the batch is taken out with it. -/
theorem Fits.fill (h : k.Fits s) (b : Backoff) (d : Deduplicator) (item : Item) (x : Embedding)
    (now : Nat) : ((k.collect d item x now).flush b .resume).Fits s := by
  refine fits_flush b .resume h.maxSize ?_
  change (k.pending.pending ++ [_]).length + 0 ≤ _
  rw [List.length_append, List.length_singleton, Nat.add_zero]
  exact h.pending

/-- What a worker holds beside its queue. -/
theorem Fits.length_le (h : k.Fits s) {now : Nat} (htidy : k.Tidy s now) :
    k.phase.inHand.length + k.pending.pending.length + k.phase.batch.length ≤ s.fullBatch := by
  have hroom := h.pending
  have hhand := k.phase.length_inHand_le
  cases hphase : k.phase with
  | writing batch call next =>
    -- No points wait while a batch is written.
    have hnone := htidy.nothing (by rw [hphase]; rfl)
    have hfits := (h.batch batch call next hphase).2
    simp only [Phase.inHand, Phase.batch, hnone, List.length_nil]
    omega
  | idle | embedding _ _ | stopped | broken =>
    rw [hphase] at hhand
    simp only [Phase.batch, List.length_nil]
    omega

end Worker

namespace World

variable {w v : World} {i : Nat} {k : Worker}

/-- What workers hold beside their queues, and every batch that was written, fits. -/
structure Fits (w : World) : Prop where
  workers : ∀ k ∈ w.workers, k.Fits w.settings
  writes : ∀ x ∈ w.writes, 0 < x.batch.length ∧ x.batch.length ≤ w.settings.fullBatch

theorem fits_start (s : Settings) (c : Client) (b : Backend) : (start s c b).Fits where
  workers k hk := by
    rw [List.eq_of_mem_replicate hk]
    exact Worker.fits_start s
  writes := nofun

private theorem Works.fits (h : w.Works i k v) (hk : k.Fits w.settings) :
    ∃ k', v.workers = w.workers.set i k' ∧ k'.Fits w.settings := by
  cases h
  case leaves readings dedup hgone hover => exact ⟨_, rfl, hk.leave dedup (.inl rfl)⟩
  case breaks => exact ⟨_, rfl, hk.leave k.dedup (.inr rfl)⟩
  case flushes | interrupts | drains => exact ⟨_, rfl, hk.flush _ _⟩
  case collects hroom => exact ⟨_, rfl, hk.collect hroom⟩
  case fills => exact ⟨_, rfl, hk.fill _ _ _ _ _⟩
  case writes hphase _ _ | pauses hphase _ _ =>
    refine ⟨_, rfl, hk.maxSize, hk.pending, fun batch call next heq => ?_⟩
    cases heq
    exact hk.batch _ _ _ hphase
  case stores next hphase hover hstep | drops next f hphase hover hstep =>
    refine ⟨_, rfl, hk.moved (Worker.pending_proceed _ _) fun batch call next' heq => ?_⟩
    cases next <;> cases heq
  -- The others leave the worker idle or with an entry that is being embedded.
  all_goals
    refine ⟨_, rfl, hk.moved rfl fun batch call next heq => ?_⟩
    cases heq

theorem Fits.works (hw : w.Fits) (h : w.Works i k v) (hk : w.workers[i]? = some k) : v.Fits := by
  have hfits := hw.workers k (List.mem_of_getElem? hk)
  obtain ⟨k', hworkers, hfits'⟩ := h.fits hfits
  refine ⟨fun l hl => ?_, ?_⟩
  · rw [h.frame.settings]
    rw [hworkers] at hl
    rcases List.mem_or_eq_of_mem_set hl with hl | rfl
    · exact hw.workers l hl
    · exact hfits'
  · obtain ⟨k'', -, hpursues⟩ := h.pursues
    rw [h.frame.settings]
    cases hpursues with
    | begins hphase _ _ _ hwrites _ =>
      obtain ⟨hpos, hle⟩ := hfits.batch _ _ _ hphase
      rw [hwrites]
      exact List.forall_mem_cons.mpr ⟨⟨hpos, Nat.le_of_add_right_le hle⟩, hw.writes⟩
    | goesOn _ _ _ hquiet | takes _ _ _ hquiet | rests _ hquiet =>
      rw [hquiet.writes]
      exact hw.writes

theorem Occurs.writes_eq (h : w.Occurs v) : v.writes = w.writes := by
  cases h <;> rfl

theorem Fits.occurs (hw : w.Fits) (h : w.Occurs v) (hsettings : v.settings = w.settings) :
    v.Fits := by
  refine ⟨fun l hl => ?_, ?_⟩
  · obtain ⟨k, hk, queue, rfl⟩ := h.workers.2 l hl
    have hfits := hw.workers k hk
    rw [hsettings]
    exact ⟨hfits.maxSize, hfits.pending, hfits.batch⟩
  · rw [h.writes_eq, hsettings]
    exact hw.writes

theorem Fits.apply {a : Action} (hw : w.Fits) (h : w.apply a = some v) : v.Fits := by
  have hsettings := (fixed_of_apply h).settings
  obtain ⟨i, k, -, hk, hworks⟩ | ⟨-, hoccurs⟩ := apply_cases h
  · exact hw.works hworks hk
  · exact hw.occurs hoccurs hsettings

end World

/-! ### Everything together -/

namespace Reaches

variable {s : Settings} {c : Client} {b : Backend} {w v : World}

theorem roomy (h : Reaches (.start s c b) w) : w.Roomy := by
  induction h with
  | refl => exact World.roomy_start s c b
  | step a _ h ih => exact ih.apply h

theorem fits (h : Reaches (.start s c b) w) : w.Fits := by
  induction h with
  | refl => exact World.fits_start s c b
  | step a _ h ih => exact ih.apply h

theorem length_workers (h : Reaches (.start s c b) w) : w.workers.length = s.workers := by
  induction h with
  | refl => exact List.length_replicate
  | step a _ h ih => rw [World.length_of_apply h, ih]

end Reaches

/-- **What a pipeline holds** at a time. -/
structure BoundedMemory (s : Settings) (w : World) : Prop where
  /-- No queue holds more than its share. -/
  queue : ∀ k ∈ w.workers, k.queue.length ≤ max 1 (s.queueCapacity / s.workers)
  /-- A worker has at most one entry at hand. -/
  inHand : ∀ k ∈ w.workers, k.phase.inHand.length ≤ 1
  /-- Beside it, points that wait or are being written make at most one batch, -/
  points : ∀ k ∈ w.workers, k.pending.pending.length + k.phase.batch.length ≤ s.maxBatchSize
  /-- even with the entry at hand among them. -/
  together : ∀ k ∈ w.workers, k.phase.inHand.length +
    (k.pending.pending.length + k.phase.batch.length) ≤ s.maxBatchSize
  /-- Batches that are given to the store are neither empty nor too large. -/
  written : ∀ x ∈ w.writes, 1 ≤ x.batch.length ∧ x.batch.length ≤ s.maxBatchSize
  /-- All that workers hold is bounded by the settings. -/
  held : w.held.length ≤ max s.queueCapacity s.workers + s.workers * s.maxBatchSize + s.workers

/-- **Memory is bounded** in every world that can come about, whatever the producers and the
backends of the pipeline are. -/
theorem boundedMemory {s : Settings} {c : Client} {b : Backend} {w : World} (hs : s.check = .ok ())
    (h : Reaches (.start s c b) w) : BoundedMemory s w := by
  have hfull : s.fullBatch = s.maxBatchSize := Nat.max_eq_left (Settings.maxBatchSize_pos hs)
  have hsettings : w.settings = s := h.fixed.settings
  have hlength := h.length_workers
  have hqueue : ∀ k ∈ w.workers, k.queue.length ≤ s.queueCapacityPerWorker := by
    intro k hk
    obtain ⟨i, hi⟩ := List.getElem?_of_mem hk
    exact Nat.le_of_add_right_le (hsettings ▸ h.roomy i k hi)
  have htogether : ∀ k ∈ w.workers, k.phase.inHand.length +
      (k.pending.pending.length + k.phase.batch.length) ≤ s.maxBatchSize := by
    intro k hk
    have hle := (h.fits.workers k hk).length_le (h.tidy_of_start k hk)
    rw [hsettings, hfull, Nat.add_assoc] at hle
    exact hle
  refine ⟨fun k hk => ?_, fun k _ => k.phase.length_inHand_le, fun k hk => ?_, htogether, ?_, ?_⟩
  · have hpos : 0 < s.workers := hlength ▸ List.length_pos_of_mem hk
    have hshare := hqueue k hk
    rwa [Settings.queueCapacityPerWorker, Nat.max_eq_left hpos, Nat.max_comm] at hshare
  · exact Nat.le_trans (Nat.le_add_left _ _) (htogether k hk)
  · intro x hx
    have hle := h.fits.writes x hx
    rwa [hsettings, hfull] at hle
  · have hqueued : w.queued ≤ s.workers * s.queueCapacityPerWorker := by
      rw [World.queued, ← hlength, ← List.length_map fun k : Worker => k.queue.length]
      exact List.sum_le_card_nsmul _ _ (List.forall_mem_map.mpr hqueue)
    have hrest : w.inHand + w.batched ≤ s.workers * s.maxBatchSize := by
      rw [World.inHand, World.batched, ← List.sum_map_add, ← hlength,
        ← List.length_map fun k : Worker => k.phase.inHand.length +
          (k.pending.pending.length + k.phase.batch.length)]
      exact List.sum_le_card_nsmul _ _ (List.forall_mem_map.mpr htogether)
    have hshares := s.workers_mul_queueCapacityPerWorker_le
    rw [World.length_held]
    omega

/-! ### Full load -/

namespace FullLoad

/-- One worker with room for two entries in its queue, whose batches have up to two points. -/
def settings : Settings where
  workers := 1
  queueCapacity := 2
  enqueueTimeout := 100
  maxBatchSize := 2
  maxBatchAge := 50
  flushRetry := .standard
  shutdownTimeout := 1000
  dedup := ⟨.one, 3, 10, 1000, 10⟩

def client : Client := ⟨1, 1000, .standard⟩

/-- A provider that takes its time with one text, and a slow store. -/
def backend : Backend where
  embed _ text := .after (if text = "long" then 200 else 0) (.gives [.one])
  insert _ := .after 200 (.gives ())
  check _ := .after 0 (.gives ())

def entry (message : String) : Entry := ⟨default, message, "s", []⟩

/-- The point of the first entry is written while the second one is being embedded, the queue is
full, and the producer of the last entry waits. -/
def full? : Option World :=
  (World.start settings client backend).follow
    [.offer (entry "short"), .work 0, .work 0, .work 0, .offer (entry "long"), .work 0, .work 0,
      .offer (entry "third"), .offer (entry "fourth"), .offer (entry "fifth"), .wait 50,
      .work 0, .work 0]

theorem isSome_full? : full?.isSome = true := by decide +kernel

def full : World := full?.get isSome_full?

theorem reaches_full : Reaches (.start settings client backend) full :=
  (reachesPromptly_of_follow (Option.some_get isSome_full?).symm).reaches

end FullLoad

/-- A worker can hold a full queue and a full batch, if the entry at hand is counted with it. -/
theorem boundedMemory_fullLoad : FullLoad.settings.check = .ok () ∧
    Reaches (.start FullLoad.settings FullLoad.client FullLoad.backend) FullLoad.full ∧
    (FullLoad.full.queued, FullLoad.full.inHand, FullLoad.full.batched) = (2, 1, 1) ∧
    FullLoad.full.writes.length = 1 ∧ BoundedMemory FullLoad.settings FullLoad.full :=
  ⟨by decide +kernel, FullLoad.reaches_full, by decide +kernel, by decide +kernel,
    boundedMemory (by decide +kernel) FullLoad.reaches_full⟩

end LogIntake.Pipeline
