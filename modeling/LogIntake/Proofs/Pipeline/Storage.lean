import LogIntake.Proofs.Pipeline.Attempts

/-!
# How batches are written, counted and stored

`Run.delivered` draws the conclusions for batches, in every run of a pipeline and whatever its
store does: a batch that was taken is written a bounded number of times, each time as it is and
never after a success or a failure for good; it is counted once, as flushed or as dropped, with its
points; and repetitions are counted.

The store may apply a write that fails, or that nobody waits for any more, and may apply one late,
in part, or more than once. As long as it keeps one point under each identifier it holds at most
one point for an accepted entry, and exactly one for an entry that is counted as stored
(`Delivered.store`).

A store that breaks ends the worker before its batch is counted (`not_forall_counted`).
-/

namespace LogIntake.Pipeline

/-! ### A store with one point under each identifier -/

/-- Puts a point into a store, in the place of the one with its identifier if there is one. -/
def upsert (p : Point) : List Point → List Point
  | [] => [p]
  | q :: rest => if q.id = p.id then p :: rest else q :: upsert p rest

/-- What a store holds after some points were put into it, first one first. -/
def upsertAll (store : List Point) (points : List Point) : List Point :=
  points.foldl (fun store p => upsert p store) store

theorem mem_upsert {p q : Point} {store : List Point} (h : q ∈ upsert p store) :
    q = p ∨ q ∈ store := by
  induction store with
  | nil => exact .inl (List.mem_singleton.mp h)
  | cons r rest ih =>
    rw [upsert] at h
    split at h
    · exact (List.mem_cons.mp h).imp_right (List.mem_cons_of_mem _)
    · rcases List.mem_cons.mp h with rfl | h
      · exact .inr List.mem_cons_self
      · exact (ih h).imp_right (List.mem_cons_of_mem _)

theorem map_id_upsert (p : Point) (store : List Point) : (upsert p store).map Point.id =
    if p.id ∈ store.map Point.id then store.map Point.id else store.map Point.id ++ [p.id] := by
  induction store with
  | nil => rfl
  | cons q rest ih =>
    rw [upsert]
    by_cases hq : q.id = p.id
    · simp [hq]
    · rw [if_neg hq, List.map_cons, ih]
      by_cases hmem : p.id ∈ rest.map Point.id
      · rw [if_pos hmem, List.map_cons, if_pos (List.mem_cons_of_mem _ hmem)]
      · have hnot : p.id ∉ (q :: rest).map Point.id := by
          rw [List.map_cons, List.mem_cons, not_or]
          exact ⟨Ne.symm hq, hmem⟩
        rw [if_neg hmem, if_neg hnot]
        rfl

theorem nodup_upsertAll {store : List Point} (h : (store.map Point.id).Nodup)
    (points : List Point) : ((upsertAll store points).map Point.id).Nodup := by
  induction points generalizing store with
  | nil => exact h
  | cons p rest ih =>
    refine ih ?_
    rw [map_id_upsert]
    split
    · exact h
    · rename_i hfresh
      refine List.nodup_append.mpr ⟨h, List.nodup_singleton _, fun a ha b hb heq => ?_⟩
      rw [List.mem_singleton.mp hb] at heq
      exact hfresh (heq ▸ ha)

theorem mem_upsertAll {points store : List Point} {q : Point} (h : q ∈ upsertAll store points) :
    q ∈ points ∨ q ∈ store := by
  induction points generalizing store with
  | nil => exact .inr h
  | cons p rest ih =>
    rcases ih h with h | h
    · exact .inl (List.mem_cons_of_mem _ h)
    · refine (mem_upsert h).imp (fun heq => ?_) id
      rw [heq]
      exact List.mem_cons_self

theorem id_mem_upsertAll {points store : List Point} {n : Nat}
    (h : n ∈ points.map Point.id ∨ n ∈ store.map Point.id) :
    n ∈ (upsertAll store points).map Point.id := by
  induction points generalizing store with
  | nil =>
    rcases h with h | h
    · cases h
    · exact h
  | cons p rest ih =>
    refine ih ?_
    rw [map_id_upsert]
    rcases h with h | h
    · rcases List.mem_cons.mp h with rfl | h
      · right
        split
        · assumption
        · exact List.mem_append_right _ (List.mem_singleton_self _)
      · exact .inl h
    · right
      split
      · exact h
      · exact List.mem_append_left _ h

/-- The points that may have been put into a store so far: those of batches that were written, in
whatever order and however often, with all points of attempts that have succeeded by now. -/
structure World.Effects (w : World) (points : List Point) : Prop where
  written : ∀ p ∈ points, ∃ x ∈ w.writes, p ∈ x.batch
  applied : ∀ batch, ∀ a ∈ w.attempts batch, a.response = .gives () → a.due ≤ w.now →
    batch ⊆ points

/-! ### Fates and attempts -/

namespace Disposal

variable {b : Backoff} {d : Disposal} {past : List (Call.Attempt Unit)}

/-- Whether a batch was disposed of before the deadline. -/
def IsEarly (d : Disposal) : Prop :=
  ∀ t, d.deadline = some t → d.time < t

/-- A batch for which an attempt has succeeded is flushed, unless the deadline has come. -/
theorem Accounted.of_gives (h : d.Accounted b past) (hrepeats : Call.Repeats b past)
    {a : Call.Attempt Unit} (ha : a ∈ past) (hgives : a.response = .gives ()) :
    d.fate = .flushed ∨ d.fate = .cutOff ∧ ∃ t, d.deadline = some t ∧ t ≤ d.time := by
  cases h with
  | cutOff hfate hdeadline hlate => exact .inr ⟨hfate, _, hdeadline, hlate⟩
  | @ended due r earlier _ hpast hdue hfate hlast =>
    left
    subst hpast
    -- A success is not repeated, so it is the last attempt.
    rcases List.mem_cons.mp ha with rfl | ha
    · obtain rfl : r = .gives () := hgives
      exact hfate
    · obtain ⟨f, hf, -⟩ := hrepeats.transient a ha
      rw [hgives] at hf
      cases hf

/-- A batch is flushed exactly if an attempt has succeeded and the deadline has not come. -/
theorem Accounted.flushed_iff (h : d.Accounted b past) (hrepeats : Call.Repeats b past) :
    d.fate = .flushed ↔ d.IsEarly ∧ ∃ a ∈ past, a.response = .gives () ∧ a.due ≤ d.time := by
  constructor
  · intro hflushed
    cases h with
    | @ended due r earlier hearly hpast hdue hfate hlast =>
      refine ⟨hearly, ⟨due, r⟩, hpast ▸ List.mem_cons_self, ?_, hdue⟩
      rw [hflushed] at hfate
      cases r with
      | gives a => rfl
      | fails f | breaks => cases hfate
    | cutOff hfate =>
      rw [hflushed] at hfate
      cases hfate
  · rintro ⟨hearly, a, ha, hgives, -⟩
    rcases h.of_gives hrepeats ha hgives with hflushed | ⟨-, t, ht, hlate⟩
    · exact hflushed
    · exact absurd (hearly t ht) (Nat.not_lt.mpr hlate)

/-- Before the deadline a batch is dropped only after a failure for good, or after as many failures
that may pass as there may be. -/
theorem Accounted.dropped (h : d.Accounted b past) (hrepeats : Call.Repeats b past)
    (hearly : d.IsEarly) (hdropped : d.fate.isDropped = true) :
    (∃ a ∈ past, ∃ f, a.response = .fails f ∧ f.isTransient = false) ∨
      past.length = b.maxRetries.toNat + 1 ∧ ∀ a ∈ past, a.IsTransient := by
  cases h with
  | cutOff _ hdeadline hlate => exact absurd (hearly _ hdeadline) (Nat.not_lt.mpr hlate)
  | @ended due r earlier _ hpast hdue hfate hlast =>
    rw [hfate] at hdropped
    cases r with
    | gives a | breaks => cases hdropped
    | fails f =>
      cases htransient : f.isTransient with
      | false => exact .inl ⟨_, hpast ▸ List.mem_cons_self, f, rfl, htransient⟩
      | true =>
        refine .inr ⟨hlast f rfl htransient, ?_⟩
        subst hpast
        exact List.forall_mem_cons.mpr ⟨⟨f, rfl, htransient⟩, hrepeats.transient⟩

/-- A batch that is not flushed is dropped, unless the store breaks. -/
theorem Accounted.flushed_or_dropped (h : d.Accounted b past)
    (hunbroken : ∀ a ∈ past, a.response ≠ .breaks) :
    d.fate = .flushed ∨ d.fate.isDropped = true := by
  cases h with
  | cutOff hfate => exact .inr (by rw [hfate]; rfl)
  | @ended due r earlier _ hpast hdue hfate hlast =>
    rw [hfate]
    cases r with
    | gives a => exact .inl rfl
    | fails f => exact .inr rfl
    | breaks => exact absurd rfl (hunbroken _ (hpast ▸ List.mem_cons_self))

end Disposal

/-! ### Every run -/

/-- **What holds of batches** at the end of a run. -/
structure Delivered {w₀ w : World} (s : Settings) (r : Run w₀ w) : Prop where
  /-- A batch that was taken has been disposed of once, or is in flight. -/
  custody : r.books.taken.Perm (r.books.disposed.map Disposal.batch ++ w.inFlight)
  /-- No two points in batches have the same identifier, and no batch is without points. -/
  distinct : (r.books.taken.flatten.map Point.id).Nodup
  inhabited : ∀ x ∈ r.books.taken, x ≠ []
  /-- What is written is a batch that was taken, the same one whenever one of its points is. -/
  written : ∀ x ∈ w.writes, x.batch ∈ r.books.taken
  same : ∀ x ∈ w.writes, ∀ y ∈ w.writes, ∀ p ∈ x.batch, ∀ q ∈ y.batch, p.id = q.id →
    x.batch = y.batch
  /-- A batch is written at most once more than a failure may be repeated. -/
  bounded : s.flushRetry.IsFinite → ∀ batch,
    w.writes.countP (·.batch = batch) ≤ s.flushRetry.maxRetries.toNat + 1
  /-- No attempt follows one that succeeded or failed for good. -/
  repeats : ∀ batch, ∀ a ∈ (w.attempts batch).tail, a.IsTransient
  /-- A batch is flushed exactly if an attempt succeeded before the deadline: as far as its worker
  came to see it, and where everything happens promptly without exception. -/
  flushed : ∀ d ∈ r.books.disposed, d.fate = .flushed ↔
    d.IsEarly ∧ ∃ a ∈ w.attempts d.batch, a.response = .gives () ∧ a.due ≤ d.time
  prompt : r.IsPrompt → ∀ d ∈ r.books.disposed, d.fate = .flushed ↔
    ∃ a ∈ w.attempts d.batch, a.response = .gives () ∧ ∀ t, d.deadline = some t → a.due < t
  /-- Otherwise it is dropped, unless the store broke. -/
  counted : ∀ d ∈ r.books.disposed, (∀ a ∈ w.attempts d.batch, a.response ≠ .breaks) →
    d.fate = .flushed ∨ d.fate.isDropped = true
  /-- Before the deadline it is dropped only after a failure for good, or after as many failures
  that may pass as there may be. -/
  dropped : ∀ d ∈ r.books.disposed, d.IsEarly → d.fate.isDropped = true →
    (∃ a ∈ w.attempts d.batch, ∃ f, a.response = .fails f ∧ f.isTransient = false) ∨
      (w.attempts d.batch).length = s.flushRetry.maxRetries.toNat + 1 ∧
        ∀ a ∈ w.attempts d.batch, a.IsTransient
  /-- Batches are counted by their fates, each one once. -/
  flushes : w.metrics.totals.batchesFlushed =
    UInt64.ofNat (r.books.disposedAs BatchFate.isFlushed).length
  drops : w.metrics.totals.batchesDropped =
    UInt64.ofNat (r.books.disposedAs BatchFate.isDropped).length
  /-- So are their entries, and beside them those that were dropped outside of batches. -/
  stored : w.metrics.totals.recordsStored =
    UInt64.ofNat ((r.books.disposedAs BatchFate.isFlushed).map (·.batch.length)).sum
  lost : w.metrics.totals.recordsDropped = UInt64.ofNat
    (((r.books.disposedAs BatchFate.isDropped).map (·.batch.length)).sum + r.books.spilled.length)
  /-- Every attempt but the first one for a batch is counted as a repetition. -/
  retries : s.flushRetry.IsFinite → w.metrics.totals.storageRetries =
    UInt64.ofNat (r.books.taken.map fun x => w.writes.countP (·.batch = x) - 1).sum
  /-- The store holds one point at most for an accepted entry, and one for each entry that is
  counted as stored. -/
  store : ∀ points, w.Effects points →
    (∀ x ∈ w.accepted, ((upsertAll [] points).map itemOf).count x ≤ 1) ∧
      ∀ x ∈ r.books.itemsOf BatchFate.isFlushed, ((upsertAll [] points).map itemOf).count x = 1

theorem Books.length_itemsOf (b : Books) (p : BatchFate → Bool) :
    (b.itemsOf p).length = ((b.disposedAs p).map (·.batch.length)).sum := by
  rw [itemsOf, List.length_flatMap]
  simp only [Disposal.items, List.length_map]

namespace Run

variable {s : Settings} {c : Client} {b : Backend} {w : World}

/-- Where everything happens promptly a batch is flushed exactly if an attempt succeeded before the
deadline. -/
private theorem flushed_iff_of_isPrompt (r : Run (World.start s c b) w) (hprompt : r.IsPrompt)
    {d : Disposal} (hd : d ∈ r.books.disposed) : d.fate = .flushed ↔
      ∃ a ∈ w.attempts d.batch, a.response = .gives () ∧ ∀ t, d.deadline = some t → a.due < t := by
  have haccounted := r.accounted d hd
  have hrepeats := r.repeats d.batch
  constructor
  · intro hflushed
    obtain ⟨hearly, a, ha, hgives, hdue⟩ := (haccounted.flushed_iff hrepeats).mp hflushed
    exact ⟨a, ha, hgives, fun t ht => Nat.lt_of_le_of_lt hdue (hearly t ht)⟩
  · rintro ⟨a, ha, hgives, hbefore⟩
    rcases haccounted.of_gives hrepeats ha hgives with hflushed | ⟨hcut, t, ht, hlate⟩
    · exact hflushed
    · -- The worker would have seen the success before it stopped.
      have hdue := r.le_due_of_cutOff hprompt d hd hcut a ha hgives
      exact absurd (hbefore t ht) (Nat.not_lt.mpr (Nat.le_trans hlate hdue))

/-- The store holds each entry at most once, and those that were flushed. -/
private theorem count_upsertAll (r : Run (World.start s c b) w) {points : List Point}
    (h : w.Effects points) : (∀ x, ((upsertAll [] points).map itemOf).count x ≤ 1) ∧
      ∀ x ∈ r.books.itemsOf BatchFate.isFlushed,
        ((upsertAll [] points).map itemOf).count x = 1 := by
  have hnil : (([] : List Point).map Point.id).Nodup := List.nodup_nil
  have hids : ((upsertAll [] points).map Point.id).Nodup := nodup_upsertAll hnil points
  have hnodup : ((upsertAll [] points).map itemOf).Nodup := by
    refine List.Nodup.of_map Item.id ?_
    rw [List.map_map]
    exact hids
  refine ⟨List.nodup_iff_count_le_one.mp hnodup, fun x hx => ?_⟩
  refine List.count_eq_one_of_mem hnodup ?_
  obtain ⟨d, hd, hx⟩ := List.mem_flatMap.mp hx
  obtain ⟨p, hp, rfl⟩ := List.mem_map.mp hx
  obtain ⟨hd, hfate⟩ := List.mem_filter.mp hd
  -- The attempt that succeeded has put the point into the store.
  have hflushed : d.fate = .flushed := by
    cases hd : d.fate <;> simp_all [BatchFate.isFlushed]
  obtain ⟨-, a, ha, hgives, hdue⟩ :=
    ((r.accounted d hd).flushed_iff (r.repeats d.batch)).mp hflushed
  have hmem := h.applied d.batch a ha hgives (Nat.le_trans hdue (r.booked.dated d hd)) hp
  have hpid : p.id ∈ (upsertAll [] points).map Point.id :=
    id_mem_upsertAll (.inl (List.mem_map_of_mem hmem))
  obtain ⟨q, hq, hid⟩ := List.mem_map.mp hpid
  -- What is there under its identifier was written too, so it is the same point.
  have hwritten : ∀ z ∈ points, ∃ y ∈ r.books.taken, z ∈ y := fun z hz => by
    obtain ⟨y, hy, hzy⟩ := h.written z hz
    exact ⟨y.batch, r.tried.written y hy, hzy⟩
  obtain ⟨y, hy, hqy⟩ := hwritten q ((mem_upsertAll hq).resolve_right List.not_mem_nil)
  obtain ⟨z, hz, hpz⟩ := hwritten p hmem
  obtain ⟨-, rfl⟩ := eq_of_mem_flatten r.nodup_taken hy hz hqy hpz hid
  exact List.mem_map_of_mem hq

/-- **Batches are written, counted and stored as they should be** in every run of a pipeline,
whatever its settings, its producers and its backends are. -/
theorem delivered (r : Run (World.start s c b) w) : Delivered s r where
  custody := r.booked.custody
  distinct := r.nodup_taken
  inhabited := r.booked.inhabited
  written := r.tried.written
  same x hx y hy p hp q hq hid :=
    (eq_of_mem_flatten r.nodup_taken (r.tried.written x hx) (r.tried.written y hy) hp hq hid).1
  bounded hmax batch := by
    rw [← w.length_attempts]
    exact (r.repeats batch).bounded hmax
  repeats batch := (r.repeats batch).transient
  flushed d hd := (r.accounted d hd).flushed_iff (r.repeats d.batch)
  prompt hprompt d hd := r.flushed_iff_of_isPrompt hprompt hd
  counted d hd := (r.accounted d hd).flushed_or_dropped
  dropped d hd := (r.accounted d hd).dropped (r.repeats d.batch)
  flushes := r.booked.flushes
  drops := r.booked.drops
  stored := by
    have htotal := r.balanced.totals .stored (by decide)
    rw [r.booked.stored, Books.length_itemsOf] at htotal
    exact htotal
  lost := by
    have htotal := r.balanced.totals .dropped (by decide)
    rw [r.booked.dropped.length_eq, List.length_append, Books.length_itemsOf] at htotal
    exact htotal
  retries hmax := by
    have hsettings : w.settings = s := r.fixed.settings
    have hretries := r.tried.retries (hsettings ▸ hmax)
    simp only [World.length_attempts] at hretries
    exact hretries
  store points h := by
    obtain ⟨hmost, hone⟩ := r.count_upsertAll h
    exact ⟨fun x _ => hmost x, hone⟩

end Run

/-! ### A store that breaks -/

namespace BrokenStore

/-- One worker, whose batches have one point. -/
def settings : Settings where
  workers := 1
  queueCapacity := 10
  enqueueTimeout := 100
  maxBatchSize := 1
  maxBatchAge := 100
  flushRetry := .standard
  shutdownTimeout := 1000
  dedup := ⟨.one, 3, 10, 1000, 10⟩

def client : Client := ⟨1, 1000, .standard⟩

/-- The store breaks with every write. -/
def backend : Backend where
  embed _ _ := .after 0 (.gives [.one])
  insert _ := .after 0 .breaks
  check _ := .after 0 (.gives ())

/-- An entry comes, is embedded, and its point is written. -/
def written? : Option World :=
  (World.start settings client backend).follow
    (.offer ⟨default, "event", "s", []⟩ :: List.replicate 5 (.work 0))

theorem isSome_written? : written?.isSome = true := by decide +kernel

def written : World := written?.get isSome_written?

end BrokenStore

/-- A batch need not be counted when its write has ended, even if failures can be counted. -/
theorem not_forall_counted : ¬ ∀ (s : Settings) (c : Client) (b : Backend) (w : World),
    s.check = .ok () → s.flushRetry.IsFinite → ReachesPromptly (.start s c b) w →
      ∀ x ∈ w.writes, x.batch ∉ w.inFlight →
        w.metrics.totals.batchesFlushed ≠ 0 ∨ w.metrics.totals.batchesDropped ≠ 0 := by
  intro h
  have hwrites : 0 < BrokenStore.written.writes.length := by decide +kernel
  have hnone : BrokenStore.written.inFlight = [] := by decide +kernel
  have hfinite : BrokenStore.settings.flushRetry.IsFinite := by
    rw [Backoff.IsFinite]
    decide
  rcases h BrokenStore.settings BrokenStore.client BrokenStore.backend BrokenStore.written
    (by decide +kernel) hfinite
    (reachesPromptly_of_follow (Option.some_get BrokenStore.isSome_written?).symm) _
    (List.getElem_mem hwrites) (by rw [hnone]; exact List.not_mem_nil) with hflushed | hdropped
  · exact hflushed (by decide +kernel)
  · exact hdropped (by decide +kernel)

end LogIntake.Pipeline
