import LogIntake.Proofs.Pipeline.Admission

/-!
# Runs and their ledgers

A **run** of the pipeline is a sequence of steps, in any order in which they can come. Its ledger
collects what left with each step of a worker. The worlds that a run passes through are the worlds
that can come about (`Run.reaches`, `Reaches.run`).

Along a run the order among offers, numbers and workers is kept (`Run.orderly`), and an offer that
has its answer keeps it (`Run.offer`). `Run.arrivals` lists the entries in the order in which they
entered a queue, which is the order of their numbers.

## Which runs are meant

Where nothing else is said a result is about every run: of a pipeline with any settings, with
producers and backends that do anything, and in any order of steps. Backends may break too, and a
broken backend takes a worker with it. What such a worker held is not counted, and its points are
taken out by nobody, so results about counts and batches name this case, or ask for a world that
`IsUnbroken`. Results that bound attempts, or the steps up to the end, ask that failures can be
counted (`Backoff.IsFinite`): all numbers of repetitions allow that but the largest one.
-/

namespace LogIntake.Pipeline

/-- Whether a backend broke, and the worker with it. -/
def Worker.isBroken (k : Worker) : Bool :=
  match k.phase with
  | .broken => true
  | .idle | .embedding _ _ | .writing _ _ _ | .stopped => false

/-- Whether no backend broke, and no worker with it. -/
def World.IsUnbroken (w : World) : Prop :=
  ∀ k ∈ w.workers, k.isBroken = false

/-- The steps that lead from one world to another one. -/
inductive Run (w : World) : World → Type where
  | refl : Run w w
  | step {v u : World} (r : Run w v) (a : Action) (h : v.apply a = some u) : Run w u

/-- What leaves with a step. -/
def World.leaving (w : World) : Action → Ledger
  | .work i => w.departures i
  | .offer _ | .settle _ | .close | .stop | .wait _ => []

theorem World.leaving_eq_nil (w : World) {a : Action} (h : ∀ i, a ≠ .work i) :
    w.leaving a = [] := by
  cases a with
  | work i => exact absurd rfl (h i)
  | offer _ | settle _ | close | stop | wait _ => rfl

/-- What enters a queue with a step. -/
def World.arriving (before after : World) : List Item :=
  after.accepted.filter fun x => x ∉ before.accepted

namespace Run

variable {w v u : World}

/-- What left in a run, first one first. -/
def ledger : {v : World} → Run w v → Ledger
  | _, .refl => []
  | _, .step (v := v) r a _ => r.ledger ++ v.leaving a

/-- What entered a queue in a run, first one first. -/
def arrivals : {v : World} → Run w v → List Item
  | _, .refl => []
  | _, .step (v := v) (u := u) r _ _ => r.arrivals ++ v.arriving u

theorem reaches (r : Run w v) : Reaches w v := by
  induction r with
  | refl => exact .refl
  | step _ a h ih => exact .step a ih h

end Run

theorem Reaches.run {w v : World} (h : Reaches w v) : Nonempty (Run w v) := by
  induction h with
  | refl => exact ⟨.refl⟩
  | step a _ h ih =>
    obtain ⟨r⟩ := ih
    exact ⟨.step r a h⟩

namespace World

variable {w v : World} {a : Action}

theorem entered_le_of_apply (h : w.apply a = some v) : w.entered ≤ v.entered := by
  obtain ⟨i, k, -, -, hworks⟩ | ⟨-, hoccurs⟩ := apply_cases h
  · exact Nat.le_of_eq hworks.frame.entered.symm
  · cases hoccurs <;> simp [enter, close, stop]

theorem Occurs.now_le (h : w.Occurs v) : w.now ≤ v.now := by
  cases h
  case passes hlater => exact Nat.le_of_lt hlater
  all_goals exact Nat.le_refl _

/-- The clock does not go back. -/
theorem now_le_of_apply (h : w.apply a = some v) : w.now ≤ v.now := by
  obtain ⟨i, k, -, -, hworks⟩ | ⟨-, hoccurs⟩ := apply_cases h
  · exact Nat.le_of_eq hworks.frame.now.symm
  · exact hoccurs.now_le

/-- Before the deadline the clock shows less. -/
theorem lt_of_isOver {d : Nat} (hd : w.deadline = some d) (h : w.isOver = false) : w.now < d := by
  simpa [isOver, hd] using h

/-- At the deadline there is one. -/
theorem exists_le_of_isOver (h : w.isOver = true) : ∃ d, w.deadline = some d ∧ d ≤ w.now := by
  rw [isOver] at h
  split at h
  · rename_i d hd
    exact ⟨d, hd, of_decide_eq_true h⟩
  · cases h

/-- What no step changes. -/
structure Fixed (w v : World) : Prop where
  settings : v.settings = w.settings
  client : v.client = w.client
  backend : v.backend = w.backend

theorem Fixed.trans {u : World} (h : Fixed w v) (h' : Fixed v u) : Fixed w u :=
  ⟨h'.settings.trans h.settings, h'.client.trans h.client, h'.backend.trans h.backend⟩

theorem fixed_of_apply (h : w.apply a = some v) : Fixed w v := by
  obtain ⟨i, k, -, -, hworks⟩ | ⟨-, hoccurs⟩ := apply_cases h
  · exact ⟨hworks.frame.settings, hworks.frame.client, hworks.frame.backend⟩
  · cases hoccurs <;> exact ⟨rfl, rfl, rfl⟩

theorem arriving_eq_nil (h : v.accepted = w.accepted) : w.arriving v = [] := by
  rw [arriving, h, List.filter_eq_nil_iff]
  simp

/-- Entries that have entered a queue have the numbers that were given. -/
theorem Orderly.id_lt (hw : w.Orderly) {x : Item} (hx : x ∈ w.accepted) : x.id < w.entered :=
  List.mem_range.mp (hw.numbered.subset (List.mem_map_of_mem hx))

/-- Entries are told apart by their numbers. -/
theorem Orderly.nodup (hw : w.Orderly) : (w.accepted.map Item.id).Nodup :=
  hw.numbered.nodup_iff.mpr List.nodup_range

/-- An entry that arrives is what enters a queue. -/
theorem Orderly.arriving_of_arrives (hw : w.Orderly) {i : Nat} {k : Worker} {e : Entry}
    (h : w.Arrives v i k e) : w.arriving v = [⟨w.entered, e⟩] := by
  -- The number is given for the first time, so nothing else has entered under it.
  have hfresh : (⟨w.entered, e⟩ : Item) ∉ w.accepted := fun hx =>
    Nat.lt_irrefl _ (hw.id_lt hx)
  rw [arriving, ← List.perm_singleton]
  refine (h.accepted.filter _).trans (.of_eq ?_)
  rw [List.filter_cons_of_pos (by simpa using hfresh), List.filter_eq_nil_iff.mpr (by simp)]

/-- At most one entry enters a queue with a step, under the next number. -/
theorem arriving_of_apply (hw : w.Orderly) (h : w.apply a = some v) :
    (w.arriving v = [] ∧ v.accepted = w.accepted) ∨
      ∃ e : Entry, w.arriving v = [⟨w.entered, e⟩] ∧
        v.accepted.Perm (⟨w.entered, e⟩ :: w.accepted) := by
  obtain ⟨i, k, -, -, hworks⟩ | ⟨-, hoccurs⟩ := apply_cases h
  · exact .inl ⟨arriving_eq_nil hworks.accepted, hworks.accepted⟩
  · rcases hoccurs.arrives_or_still hw with ⟨i, k, e, harrives⟩ | hstill
    · exact .inr ⟨e, hw.arriving_of_arrives harrives, harrives.accepted⟩
    · exact .inl ⟨arriving_eq_nil hstill.accepted, hstill.accepted⟩

/-- What becomes of an offer in one step. -/
theorem offer_of_apply (h : w.apply a = some v) {t : Nat} {o : Offer} (ho : w.offers[t]? = some o) :
    ∃ o', v.offers[t]? = some o' ∧ o.Becomes w.entered v.entered o' := by
  obtain ⟨i, k, -, -, hworks⟩ | ⟨-, hoccurs⟩ := apply_cases h
  · rw [hworks.frame.entered]
    exact getElem?_of_becomes (hworks.offers w.entered) ho
  · obtain ⟨old, new, hoffers, hold, -⟩ := hoccurs.offers
    obtain ⟨o', ho', hb⟩ := getElem?_of_becomes hold ho
    refine ⟨o', ?_, hb⟩
    rw [hoffers, List.getElem?_append_left (List.getElem?_eq_some_iff.mp ho').1]
    exact ho'

end World

namespace Run

variable {w v : World}

theorem entered_le (r : Run w v) : w.entered ≤ v.entered := by
  induction r with
  | refl => exact Nat.le_refl _
  | step _ a h ih => exact Nat.le_trans ih (World.entered_le_of_apply h)

/-- What a run leaves as it is. -/
theorem fixed (r : Run w v) : World.Fixed w v := by
  induction r with
  | refl => exact ⟨rfl, rfl, rfl⟩
  | step _ a h ih => exact ih.trans (World.fixed_of_apply h)

/-- What becomes of an offer in a run. -/
theorem offer (r : Run w v) {t : Nat} {o : Offer} (ho : w.offers[t]? = some o) :
    ∃ o', v.offers[t]? = some o' ∧ o.Becomes w.entered v.entered o' := by
  induction r with
  | refl => exact ⟨o, ho, .refl _ _ _⟩
  | step r a h ih =>
    obtain ⟨o', ho', hb⟩ := ih
    obtain ⟨o'', ho'', hb'⟩ := World.offer_of_apply h ho'
    exact ⟨o'', ho'', hb.trans hb' r.entered_le (World.entered_le_of_apply h)⟩

/-- An offer that has its answer keeps it. -/
theorem offer_of_isSettled (r : Run w v) {t : Nat} {o : Offer} (ho : w.offers[t]? = some o)
    (hs : o.isSettled = true) : v.offers[t]? = some o := by
  obtain ⟨o', ho', hb⟩ := r.offer ho
  rwa [← hb.settled hs]

/-- What has entered a queue has entered it for good. -/
theorem accepted_subset (r : Run w v) : w.accepted ⊆ v.accepted := by
  intro x hx
  obtain ⟨o, ho, hitem⟩ := List.mem_filterMap.mp hx
  obtain ⟨t, ht⟩ := List.getElem?_of_mem ho
  have hsettled : o.isSettled = true := by
    cases hstate : o.state <;> simp_all [Offer.item?, Offer.isSettled]
  exact List.mem_filterMap.mpr ⟨o, List.mem_of_getElem? (r.offer_of_isSettled ht hsettled), hitem⟩

/-- Order is kept in every run. -/
theorem orderly (r : Run w v) (hw : w.Orderly) : v.Orderly := by
  induction r with
  | refl => exact hw
  | step _ a h ih => exact ih.apply h

/-- What entered a queue is what was accepted. -/
theorem arrivals_perm (r : Run w v) (hw : w.Orderly) :
    (w.accepted ++ r.arrivals).Perm v.accepted := by
  induction r with
  | refl => rw [arrivals, List.append_nil]
  | step r a h ih =>
    rw [arrivals, ← List.append_assoc]
    rcases World.arriving_of_apply (r.orderly hw) h with ⟨hnone, haccepted⟩ | ⟨e, hone, haccepted⟩
    · rw [hnone, List.append_nil, haccepted]
      exact ih
    · rw [hone]
      exact (List.perm_append_singleton _ _).trans ((ih.cons _).trans haccepted.symm)

/-- Entries enter queues in the order of their numbers. -/
theorem arrivals_pairwise (r : Run w v) (hw : w.Orderly) :
    r.arrivals.Pairwise fun x y => x.id < y.id := by
  induction r with
  | refl => exact .nil
  | step r a h ih =>
    rw [arrivals]
    rcases World.arriving_of_apply (r.orderly hw) h with ⟨hnone, -⟩ | ⟨e, hone, -⟩
    · rwa [hnone, List.append_nil]
    · rw [hone]
      refine List.pairwise_append.mpr ⟨ih, List.pairwise_singleton _ _, fun x hx y hy => ?_⟩
      rw [List.mem_singleton.mp hy]
      exact (r.orderly hw).id_lt ((r.arrivals_perm hw).subset (List.mem_append_right _ hx))

end Run

end LogIntake.Pipeline
