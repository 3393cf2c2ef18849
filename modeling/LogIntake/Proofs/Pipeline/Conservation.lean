import Mathlib.Algebra.GroupWithZero.Nat
import LogIntake.Pipeline.Schedule
import LogIntake.Proofs.Pipeline.Run

/-!
# Conservation of entries

Every entry that has entered a queue is held by a worker once, or has left once, with one fate:
`World.Balanced` says so of a world and a ledger, and that nothing else is ever embedded, written
or counted. `Balanced.apply` keeps it in every step, and `Run.conserved` draws the conclusions
for runs of a pipeline, in whatever order producers, workers, timers and the end of the pipeline
come: in every world the totals and what is held add up to what was accepted, and when all
workers have stopped the totals alone do.
-/

namespace LogIntake.Pipeline

namespace World

/-! ### What is held, part by part -/

/-- The number of entries in queues. -/
def queued (w : World) : Nat :=
  (w.workers.map fun k => k.queue.length).sum

/-- The number of entries that are being embedded, also while a batch is being written. -/
def inHand (w : World) : Nat :=
  (w.workers.map fun k => k.phase.inHand.length).sum

/-- The number of entries whose points wait or are being written. -/
def batched (w : World) : Nat :=
  (w.workers.map fun k => k.pending.pending.length + k.phase.batch.length).sum

theorem length_held (w : World) : w.held.length = w.queued + w.inHand + w.batched := by
  rw [held, queued, inHand, batched]
  induction w.workers with
  | nil => rfl
  | cons k ks ih =>
    rw [List.flatMap_cons, List.length_append, ih]
    simp only [Worker.items, List.length_append, List.length_map, List.map_cons, List.sum_cons]
    omega

variable {w v : World} {i : Nat} {k : Worker}

/-- What is with one worker, and what with the others. -/
theorem flatMap_perm {α : Type} (f : Worker → List α) (hk : w.workers[i]? = some k) : ∃ rest,
    (w.workers.flatMap f).Perm (f k ++ rest) ∧
      ∀ k', ((w.workers.set i k').flatMap f).Perm (f k' ++ rest) := by
  obtain ⟨hi, rfl⟩ := List.getElem?_eq_some_iff.mp hk
  refine ⟨(w.workers.take i).flatMap f ++ (w.workers.drop (i + 1)).flatMap f, ?_, fun k' => ?_⟩
  · nth_rewrite 1 [← List.take_append_drop i w.workers]
    rw [List.drop_eq_getElem_cons hi, List.flatMap_append, List.flatMap_cons]
    exact List.perm_append_comm_assoc _ _ _
  · rw [List.set_eq_take_append_cons_drop, if_pos hi, List.flatMap_append, List.flatMap_cons]
    exact List.perm_append_comm_assoc _ _ _

/-- What is held by one worker, and what by the others. -/
theorem held_perm (hk : w.workers[i]? = some k) : ∃ rest, w.held.Perm (k.items ++ rest) ∧
    ∀ k', ((w.workers.set i k').flatMap Worker.items).Perm (k'.items ++ rest) :=
  flatMap_perm Worker.items hk

theorem mem_held (hk : w.workers[i]? = some k) {x : Item} (hx : x ∈ k.items) : x ∈ w.held :=
  List.mem_flatMap.mpr ⟨k, List.mem_of_getElem? hk, hx⟩

/-! ### What is asked and written -/

/-- The only entry that is embedded is the one at hand. -/
theorem Works.asked (h : w.Works i k v) : v.asked = w.asked ∨
    ∃ item call, k.phase = .embedding item call ∧ v.asked = ⟨w.now, item⟩ :: w.asked := by
  cases h
  case asks item call call' hphase hover hdue hstep => exact .inr ⟨item, call, hphase, rfl⟩
  all_goals exact .inl rfl

/-- The only batch that is written is the one at hand. -/
theorem Works.writes_eq (h : w.Works i k v) : v.writes = w.writes ∨
    ∃ x : Write, x.batch = k.phase.batch ∧ v.writes = x :: w.writes := by
  cases h
  case writes batch call call' next hphase hover hstep =>
    exact .inr ⟨⟨w.now, batch, _⟩, by rw [hphase]; rfl, rfl⟩
  all_goals exact .inl rfl

/-- A worker that is gone does nothing. -/
theorem Works.isGone (h : w.Works i k v) : k.isGone = false := by
  cases h
  case leaves hgone _ => exact hgone
  case breaks hover hstep =>
    obtain ⟨item, call, hphase, -⟩ | ⟨batch, call, next, hphase, -⟩ := hstep
    · simp [Worker.isGone, hphase]
    · simp [Worker.isGone, hphase]
  all_goals simp [Worker.isGone, *]

/-! ### The balance -/

/-- What holds in a world when the entries of a ledger have left. -/
structure Balanced (w : World) (l : Ledger) : Prop where
  orderly : w.Orderly
  /-- An entry that has entered a queue has left once, or is held once. -/
  custody : (l.items ++ w.held).Perm w.accepted
  asked : ∀ a ∈ w.asked, a.item ∈ w.accepted
  written : ∀ x ∈ w.writes, ∀ p ∈ x.batch, itemOf p ∈ w.accepted
  totals : ∀ f ≠ Fate.lost, f.total w.metrics.totals = UInt64.ofNat (l.met f).length
  lost : l.met .lost = [] ∨ ∃ (i : Nat) (k : Worker), w.workers[i]? = some k ∧ k.isBroken = true

theorem balanced_start (s : Settings) (c : Client) (b : Backend) :
    (start s c b).Balanced [] where
  orderly := orderly_start s c b
  custody := by
    simp [start, held, accepted, Worker.items, Worker.start, Phase.batch, Phase.inHand,
      Accumulator.empty]
  asked := by simp [start]
  written := by simp [start]
  totals f hf := by cases f <;> simp_all [start, Fate.total]
  lost := .inl rfl

variable {l : Ledger}

/-- A worker that is broken stays so while others do something. -/
private theorem isBroken_set (hgone : k.isGone = false) (hk : w.workers[i]? = some k)
    (k' : Worker) (h : ∃ (j : Nat) (m : Worker), w.workers[j]? = some m ∧ m.isBroken = true) :
    ∃ (j : Nat) (m : Worker), (w.workers.set i k')[j]? = some m ∧ m.isBroken = true := by
  obtain ⟨j, m, hm, hbroken⟩ := h
  refine ⟨j, m, ?_, hbroken⟩
  rw [List.getElem?_set_ne, hm]
  rintro rfl
  obtain rfl : k = m := by simpa [hk] using hm
  cases hphase : k.phase <;> simp_all [Worker.isGone, Worker.isBroken]

/-- What all workers held before has left or is still held. -/
theorem Handover.held {k' : Worker} {gone : Ledger} (ho : w.Handover v i k k' gone)
    (hk : w.workers[i]? = some k) : (gone.items ++ v.held).Perm w.held := by
  obtain ⟨rest, hbefore, hafter⟩ := held_perm hk
  rw [World.held, ho.workers]
  calc (gone.items ++ (w.workers.set i k').flatMap Worker.items).Perm
        (gone.items ++ (k'.items ++ rest)) := (hafter k').append_left _
    List.Perm _ (k.items ++ rest) := by
      rw [← List.append_assoc]
      exact ho.items.append_right _
    List.Perm _ w.held := hbefore.symm

theorem Balanced.works (hw : w.Balanced l) (h : w.Works i k v) (hk : w.workers[i]? = some k)
    (hv : v.Orderly) : v.Balanced (l ++ w.departures i) := by
  obtain ⟨k', ho⟩ := h.handover hk
  -- What is embedded or written is held at that time, and so accepted.
  have hitems : ∀ x ∈ k.items, x ∈ v.accepted := fun x hx => by
    rw [h.accepted]
    exact hw.custody.subset (List.mem_append_right _ (mem_held hk hx))
  refine ⟨hv, ?_, ?_, ?_, fun f hf => ?_, ?_⟩
  · rw [Ledger.items_append, List.append_assoc, h.accepted]
    exact ((ho.held hk).append_left _).trans hw.custody
  · rcases h.asked with hasked | ⟨item, call, hphase, hasked⟩
    · rw [hasked, h.accepted]
      exact hw.asked
    · rw [hasked]
      intro a ha
      rcases List.mem_cons.mp ha with rfl | ha
      · exact hitems item (by simp [Worker.items, hphase, Phase.inHand])
      · rw [h.accepted]
        exact hw.asked a ha
  · rcases h.writes_eq with hwrites | ⟨x, hbatch, hwrites⟩
    · rw [hwrites, h.accepted]
      exact hw.written
    · rw [hwrites]
      intro y hy p hp
      rcases List.mem_cons.mp hy with rfl | hy
      · refine hitems _ ?_
        rw [Worker.items, ← hbatch]
        simp only [List.append_assoc, List.mem_append]
        exact .inl (List.mem_map_of_mem hp)
      · rw [h.accepted]
        exact hw.written y hy p hp
  · rw [ho.totals f hf, hw.totals f hf, Ledger.met_append, List.length_append, UInt64.ofNat_add]
  · rcases ho.lost with hlost | hphase
    · rw [Ledger.met_append, hlost, List.append_nil, ho.workers]
      exact hw.lost.imp id (isBroken_set h.isGone hk k')
    · refine .inr ⟨i, k', ?_, by simp [Worker.isBroken, hphase]⟩
      rw [ho.workers, getElem?_set_worker hk]

theorem Balanced.arrives {e : Entry} (hw : w.Balanced l) (h : w.Arrives v i k e)
    (hv : v.Orderly) : v.Balanced l := by
  obtain ⟨rest, hbefore, hafter⟩ := held_perm h.worker
  have haccepted : ∀ x ∈ w.accepted, x ∈ v.accepted := fun x hx =>
    h.accepted.symm.subset (List.mem_cons_of_mem _ hx)
  have hgone : k.isGone = false := Worker.isGone_of_isClosing h.closing
  refine ⟨hv, ?_, ?_, ?_, fun f hf => ?_, ?_⟩
  · have hheld : v.held.Perm (⟨w.entered, e⟩ :: w.held) := by
      rw [World.held, h.workers]
      refine (hafter _).trans (.trans ?_ (hbefore.symm.cons _))
      rw [Worker.items_enqueue, ← List.cons_append]
      exact (List.perm_append_singleton _ _).append_right _
    exact (hheld.append_left _).trans
      (List.perm_middle.trans ((hw.custody.cons _).trans h.accepted.symm))
  · rw [h.asked]
    exact fun a ha => haccepted _ (hw.asked a ha)
  · rw [h.writes]
    exact fun x hx p hp => haccepted _ (hw.written x hx p hp)
  · rw [h.metrics]
    exact hw.totals f hf
  · rw [h.workers]
    exact hw.lost.imp id (isBroken_set hgone h.worker _)

theorem Balanced.still (hw : w.Balanced l) (h : w.Still v) (hv : v.Orderly) : v.Balanced l where
  orderly := hv
  custody := by
    rw [World.held, h.workers, h.accepted]
    exact hw.custody
  asked := by
    rw [h.asked, h.accepted]
    exact hw.asked
  written := by
    rw [h.writes, h.accepted]
    exact hw.written
  totals := by
    rw [h.metrics]
    exact hw.totals
  lost := by
    rw [h.workers]
    exact hw.lost

/-- **Every step keeps the balance.** -/
theorem Balanced.apply {a : Action} (hw : w.Balanced l) (h : w.apply a = some v) :
    v.Balanced (l ++ w.leaving a) := by
  have hv := hw.orderly.apply h
  obtain ⟨i, k, rfl, hk, hworks⟩ | ⟨hother, hoccurs⟩ := apply_cases h
  · exact hw.works hworks hk hv
  · rw [w.leaving_eq_nil hother, List.append_nil]
    rcases hoccurs.arrives_or_still hw.orderly with ⟨i, k, e, harrives⟩ | hstill
    · exact hw.arrives harrives hv
    · exact hw.still hstill hv

/-! ### What follows -/

/-- Workers that have stopped or broken hold nothing. -/
theorem Orderly.held_eq_nil (hw : w.Orderly) (hdone : w.isDone = true) : w.held = [] := by
  rw [held, List.flatMap_eq_nil_iff]
  intro k hk
  obtain ⟨i, hi⟩ := List.getElem?_of_mem hk
  have hgone : k.isGone = true := List.all_eq_true.mp hdone k hk
  cases hphase : k.phase with
  | idle | embedding _ _ | writing _ _ _ => simp [Worker.isGone, hphase] at hgone
  | stopped | broken =>
    have hclosed := hw.closing i k hi (by simp [Worker.isClosing, hphase])
    simp [Worker.items, hphase, Phase.batch, Phase.inHand, hclosed.queue, hclosed.pending]

end World

/-- The four totals that count fates, together with a number of entries that are not counted,
make up a number: as the counters add, and exactly as long as no counter can have overflowed. -/
structure Accounts (t : Totals) (rest n : Nat) : Prop where
  wrapped : t.recordsStored + t.recordsDropped + t.duplicatesSuppressed + t.embeddingFailures +
    UInt64.ofNat rest = UInt64.ofNat n
  exact : n < UInt64.size → t.recordsStored.toNat + t.recordsDropped.toNat +
    t.duplicatesSuppressed.toNat + t.embeddingFailures.toNat + rest = n

namespace World

theorem Balanced.accounts {w : World} {l : Ledger} (hw : w.Balanced l) :
    Accounts w.metrics.totals (w.queued + w.inHand + w.batched + (l.met .lost).length)
      w.accepted.length := by
  have hstored := hw.totals .stored (by decide)
  have hdropped := hw.totals .dropped (by decide)
  have hduplicate := hw.totals .duplicate (by decide)
  have hfailed := hw.totals .failed (by decide)
  have hlength := hw.custody.length_eq
  rw [List.length_append, Ledger.length_items, length_held] at hlength
  simp only [Fate.total] at hstored hdropped hduplicate hfailed
  refine ⟨?_, fun hsmall => ?_⟩
  · rw [hstored, hdropped, hduplicate, hfailed, ← hlength]
    simp only [← UInt64.ofNat_add]
    congr 1
    omega
  · rw [hstored, hdropped, hduplicate, hfailed]
    rw [UInt64.toNat_ofNat_of_lt' (by omega), UInt64.toNat_ofNat_of_lt' (by omega),
      UInt64.toNat_ofNat_of_lt' (by omega), UInt64.toNat_ofNat_of_lt' (by omega)]
    omega

/-- A caller that sees all workers stopped, none of them ended, sees the world as it is. -/
theorem eq_of_pollStop {w v : World} {limit : Nat}
    (h : Schedule.pollStop limit w = some (v, 0)) : v = w ∧ w.isDone = true := by
  simp only [Schedule.pollStop] at h
  split at h
  · rename_i hdone
    cases h
    exact ⟨rfl, hdone⟩
  · rename_i hdone
    split at h
    · -- Some worker is still running, so it would have been ended.
      simp only [Option.some.injEq, Prod.mk.injEq, List.countP_eq_zero] at h
      refine absurd (List.all_eq_true.mpr fun k hk => ?_) hdone
      simpa using h.2 k hk
    · cases h

end World

/-- **Conservation** at the end of a run: what holds there, and goes on to hold. -/
structure Conserved {w₀ w : World} (r : Run w₀ w) : Prop where
  /-- Each accepted entry has left once, with one fate, or is held once. -/
  custody : (r.ledger.items ++ w.held).Perm w.accepted
  /-- Accepted entries are told apart by their numbers. -/
  distinct : (w.accepted.map Item.id).Nodup
  /-- An offer that was accepted or refused stays so, whatever happens later. -/
  settled : ∀ (t : Nat) (o : Offer), w.offers[t]? = some o → o.isSettled = true →
    ∀ {v : World}, Run w v → v.offers[t]? = some o
  /-- Only accepted entries are embedded. -/
  asked : ∀ a ∈ w.asked, a.item ∈ w.accepted
  /-- Only accepted entries are written. -/
  written : ∀ x ∈ w.writes, ∀ p ∈ x.batch, itemOf p ∈ w.accepted
  /-- Only accepted entries that have left are counted, each one once and by its fate. -/
  counted : ∀ f ≠ Fate.lost,
    f.total w.metrics.totals = UInt64.ofNat (r.ledger.met f).length
  /-- The totals and what is held, or was lost with broken workers, make up what was accepted. -/
  balance : Accounts w.metrics.totals
    (w.queued + w.inHand + w.batched + (r.ledger.met .lost).length) w.accepted.length
  /-- Entries are lost with broken workers only. -/
  unbroken : w.IsUnbroken → r.ledger.met .lost = []
  /-- When all workers have stopped, none of them ended or broken, the totals alone do. -/
  report : ∀ (limit : Nat) (v : World), Schedule.pollStop limit w = some (v, 0) → v.IsUnbroken →
      r.ledger.items.Perm v.accepted ∧ Accounts v.metrics.totals 0 v.accepted.length

namespace Run

variable {s : Settings} {c : Client} {b : Backend} {w : World}

theorem balanced (r : Run (World.start s c b) w) : w.Balanced r.ledger := by
  induction r with
  | refl => exact World.balanced_start s c b
  | step _ a h ih => exact ih.apply h

/-- **Entries are conserved** in every run of a pipeline, whatever its settings, its producers and
its backends are. -/
theorem conserved (r : Run (World.start s c b) w) : Conserved r := by
  have hw := r.balanced
  have hunbroken : w.IsUnbroken → r.ledger.met .lost = [] := by
    intro h
    rcases hw.lost with hlost | ⟨i, k, hk, hbroken⟩
    · exact hlost
    · rw [h k (List.mem_of_getElem? hk)] at hbroken
      cases hbroken
  refine ⟨hw.custody, hw.orderly.nodup, fun t o ho hs _ r' => r'.offer_of_isSettled ho hs,
    hw.asked, hw.written, hw.totals, hw.accounts, hunbroken, fun limit v hv h => ?_⟩
  obtain ⟨rfl, hdone⟩ := World.eq_of_pollStop hv
  have hheld := hw.orderly.held_eq_nil hdone
  refine ⟨by simpa [hheld] using hw.custody, ?_⟩
  have hnothing := World.length_held v
  have haccounts := hw.accounts
  rw [hheld, List.length_nil] at hnothing
  -- Nothing is held and nothing was lost, so nothing is left beside the totals.
  rw [← hnothing, hunbroken h] at haccounts
  exact haccounts

end Run

end LogIntake.Pipeline
