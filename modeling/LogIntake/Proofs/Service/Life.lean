import LogIntake.Proofs.Pipeline.Run
import LogIntake.Service.Instance

/-!
# The life of an instance

The **life** of an instance is the sequence of its steps from its start on: what happens in its
pipeline, its health checks, the end of its listener and its own end. Every state that it can come
to ends some life (`Reaches.life`), and what a step of the pipeline brings can be collected along a
life (`Life.log`).

Whatever a life asks of the store for the pipeline's sake is a batch that the pipeline has written
(`exists_of_mem_asked`).
-/

namespace LogIntake.Service.Instance

open Pipeline (World Action)

/-- The steps that lead from one state of an instance to another one. -/
inductive Life (i : Instance) : Instance → Type where
  | refl : Life i i
  | act {j k : Instance} (l : Life i j) (a : Action) (hactive : j.activity ≠ .stopped)
    (hstop : a ≠ .stop) (h : j.act? a = some k) : Life i k
  | check {j : Instance} (l : Life i j) (hactive : j.activity ≠ .stopped) : Life i j.check
  | drain {j : Instance} (l : Life i j) (failure : Option String)
    (hserving : j.activity = .serving) : Life i (j.drain failure)
  | finish {j k : Instance} (l : Life i j) (hdraining : j.activity = .draining)
    (h : j.finish? = some k) : Life i k

variable {i j k : Instance} {α : Type}

/-- What the steps of the pipeline bring in a life, first one first. -/
def Life.log (f : World → Action → List α) : {j : Instance} → Life i j → List α
  | _, .refl => []
  | _, .act (j := j) l a _ _ _ => l.log f ++ f j.world a
  | _, .check l _ => l.log f
  | _, .drain l _ _ => l.log f
  | _, .finish l _ _ => l.log f

theorem Life.reaches (l : Life i j) : Reaches i j := by
  induction l with
  | refl => exact .refl
  | act _ a hactive hstop h ih => exact .act a ih hactive hstop h
  | check _ hactive ih => exact .check ih hactive
  | drain _ failure hserving ih => exact .drain failure ih hserving
  | finish _ hdraining h ih => exact .finish ih hdraining h

/-- Every state that can come about ends a life. -/
theorem Reaches.life (h : Reaches i j) : Nonempty (Life i j) := by
  induction h with
  | refl => exact ⟨.refl⟩
  | act a _ hactive hstop h ih => exact ih.map fun l => .act l a hactive hstop h
  | check _ hactive ih => exact ih.map fun l => .check l hactive
  | drain failure _ hserving ih => exact ih.map fun l => .drain l failure hserving
  | finish _ hdraining h ih => exact ih.map fun l => .finish l hdraining h

/-- What was collected was brought by a step that the instance could take. -/
theorem Life.exists_of_mem_log {f : World → Action → List α} (l : Life i j) {x : α}
    (hx : x ∈ l.log f) : ∃ m a, Reaches i m ∧ x ∈ f m.world a := by
  induction l with
  | refl => cases hx
  | act l a _ _ _ ih =>
    rcases List.mem_append.mp hx with hx | hx
    · exact ih hx
    · exact ⟨_, a, l.reaches, hx⟩
  | check _ _ ih | drain _ _ _ ih | finish _ _ _ ih => exact ih hx

/-! ### Single steps -/

theorem exists_of_act? {a : Action} (h : j.act? a = some k) : ∃ w, j.world.apply a = some w ∧
    k = { j with world := w, requests := asked j.handle j.world w ++ j.requests } := by
  simp only [act?, Option.bind_eq_bind, Option.bind_eq_some_iff] at h
  obtain ⟨w, hw, h⟩ := h
  exact ⟨w, hw, (Option.some.inj h).symm⟩

/-- An instance ends once its workers are gone, or ends those that are late. -/
theorem finish?_cases (h : j.finish? = some k) : ∃ w, (w = j.world ∨
    w = Pipeline.Schedule.abort j.world) ∧
      k = { j with activity := .stopped, world := w, handle := j.handle.close } := by
  simp only [finish?] at h
  split at h
  · exact ⟨_, .inl rfl, (Option.some.inj h).symm⟩
  · split at h
    · exact ⟨_, .inr rfl, (Option.some.inj h).symm⟩
    · cases h

theorem gained_subset (before after : List α) : gained before after ⊆ after :=
  List.take_subset _ _

/-- A handle writes a batch as a whole, into its own collection. -/
theorem eq_write_of_insert {handle : Store.Handle} {batch : Batch} {q : Store.Request}
    (h : (handle.insert batch).request? = some q) :
    q = .write handle.settings.collection (batch.map Store.Stored.ofPoint) := by
  unfold Store.Handle.insert at h
  split at h
  · cases h
  · split at h
    · cases h
    · exact (Option.some.inj h).symm

/-- What the pipeline asks of the store is to write a batch. -/
theorem exists_of_mem_asked {handle : Store.Handle} {before after : World} {q : Store.Request}
    (h : .store q ∈ asked handle before after) : ∃ x ∈ after.writes,
      q = .write handle.settings.collection (x.batch.map Store.Stored.ofPoint) := by
  rcases List.mem_append.mp h with h | h
  · obtain ⟨a, -, heq⟩ := List.mem_map.mp h
    cases heq
  · obtain ⟨x, hx, h⟩ := List.mem_flatMap.mp h
    obtain ⟨q', hq, heq⟩ := Option.map_eq_some_iff.mp (Option.mem_toList.mp h)
    cases heq
    exact ⟨x, gained_subset _ _ hx, eq_write_of_insert hq⟩

end LogIntake.Service.Instance
