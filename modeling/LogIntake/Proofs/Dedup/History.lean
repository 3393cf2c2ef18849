import Mathlib.Data.Finset.Card
import Mathlib.Data.List.Nodup
import LogIntake.Proofs.Dedup.Script

/-!
# Deduplication by history

What a deduplicator decides can be told from all embeddings that came before, without any windows.
A **history** lists them, latest first. From now one goes back from one embedding of a stream to
the one before, as long as fewer than a number of other streams were seen in between; what is
found like this is what the stream **recalls**. Of that, what is not too old counts, and the
latest part of it (`History.recent`).

The **gap** of a stream is the set of the streams that were seen since it was last seen. As
streams are last seen at different times, gaps tell which one was seen longer ago
(`Before.mem_gap_iff`).
-/

namespace LogIntake

/-- An embedding that some stream has shown. -/
structure Visit where
  stream : String
  sighting : Sighting
  deriving DecidableEq, Repr

/-- All embeddings that have come, latest first. -/
abbrev History := List Visit

namespace History

/-- What a stream recalls, latest first, where fewer than `cap` other streams may be seen in
between; the streams in `others` were seen since. -/
def recalled (cap : Nat) (stream : String) (others : Finset String) : History → List Sighting
  | [] => []
  | x :: h =>
    if x.stream = stream then
      if others.card < cap then x.sighting :: recalled cap stream ∅ h else []
    else recalled cap stream (insert x.stream others) h

/-- What a decision on an embedding of a stream at a time goes by, latest first. -/
def recent (s : DedupSettings) (h : History) (stream : String) (now : Nat) : List Sighting :=
  ((h.recalled (max s.maxStreams 1) stream ∅).filter fun x => now - x.time ≤ s.maxAge).take
    (max s.maxEntries 1)

/-- The decision on an embedding of a stream at a time. -/
def decision (s : DedupSettings) (h : History) (stream : String) (v : Embedding) (now : Nat) :
    Decision :=
  if s.minExamples.toNat ≤
      (h.recent s stream now).countP fun x => Embedding.similar s.threshold x.vector v
  then .suppress
  else .accept

/-- The decisions on the embeddings of a script; whether and when something is dropped does not
matter. -/
def decisions (s : DedupSettings) (h : History) : List Deduplicator.Op → List (Option Decision)
  | [] => []
  | .consider stream v now :: rest =>
    some (h.decision s stream v now) :: decisions s (⟨stream, v, now⟩ :: h) rest
  | .expire _ :: rest => none :: decisions s h rest

/-! ### Gaps -/

/-- When a stream was last seen. -/
def lastSeen? (stream : String) : History → Option Nat
  | [] => none
  | x :: h => if x.stream = stream then some x.sighting.time else lastSeen? stream h

/-- The streams seen since a stream was last seen. -/
def gap (stream : String) : History → Finset String
  | [] => ∅
  | x :: h => if x.stream = stream then ∅ else insert x.stream (gap stream h)

/-- Whether embeddings came one after the other, the last one not after a time. -/
structure Before (h : History) (now : Nat) : Prop where
  pairwise : h.Pairwise fun x y => y.sighting.time < x.sighting.time
  past : ∀ x ∈ h, x.sighting.time ≤ now

variable {h : History} {x : Visit} {stream other : String} {now t : Nat}

theorem Before.tail (hb : Before (x :: h) now) : Before h x.sighting.time :=
  ⟨(List.pairwise_cons.mp hb.pairwise).2,
    fun y hy => Nat.le_of_lt ((List.pairwise_cons.mp hb.pairwise).1 y hy)⟩

theorem Before.mono (hb : Before h now) (ht : now ≤ t) : Before h t :=
  ⟨hb.pairwise, fun y hy => Nat.le_trans (hb.past y hy) ht⟩

theorem lastSeen?_of_eq (hx : x.stream = stream) :
    lastSeen? stream (x :: h) = some x.sighting.time := if_pos hx

theorem lastSeen?_of_ne (hx : x.stream ≠ stream) :
    lastSeen? stream (x :: h) = lastSeen? stream h := if_neg hx

theorem gap_of_eq (hx : x.stream = stream) : gap stream (x :: h) = ∅ := if_pos hx

theorem gap_of_ne (hx : x.stream ≠ stream) :
    gap stream (x :: h) = insert x.stream (gap stream h) := if_neg hx

theorem exists_of_lastSeen? (hlast : lastSeen? stream h = some t) :
    ∃ x ∈ h, x.stream = stream ∧ x.sighting.time = t := by
  induction h with
  | nil => cases hlast
  | cons x h ih =>
    by_cases hx : x.stream = stream
    · rw [lastSeen?_of_eq hx] at hlast
      exact ⟨x, List.mem_cons_self, hx, Option.some.inj hlast⟩
    · rw [lastSeen?_of_ne hx] at hlast
      obtain ⟨y, hy, hstream, htime⟩ := ih hlast
      exact ⟨y, List.mem_cons_of_mem _ hy, hstream, htime⟩

theorem not_mem_gap (stream : String) (h : History) : stream ∉ gap stream h := by
  induction h with
  | nil => simp [gap]
  | cons x h ih =>
    by_cases hx : x.stream = stream
    · simp [gap_of_eq hx]
    · simp [gap_of_ne hx, ih, Ne.symm hx]

theorem Before.le_of_lastSeen? (hb : Before h now) (hlast : lastSeen? stream h = some t) :
    t ≤ now := by
  obtain ⟨x, hx, -, rfl⟩ := exists_of_lastSeen? hlast
  exact hb.past x hx

/-- Two streams are not last seen at one time. -/
theorem Before.eq_of_lastSeen? (hb : Before h now) (hstream : lastSeen? stream h = some t)
    (hother : lastSeen? other h = some t) : stream = other := by
  obtain ⟨x, hx, rfl, hxt⟩ := exists_of_lastSeen? hstream
  obtain ⟨y, hy, rfl, hyt⟩ := exists_of_lastSeen? hother
  have hnodup : (h.map fun x => x.sighting.time).Nodup :=
    List.pairwise_map.mpr (hb.pairwise.imp fun hlt => Nat.ne_of_gt hlt)
  rw [List.inj_on_of_nodup_map hnodup hx hy (hxt.trans hyt.symm)]

/-- The gap of a stream holds the streams that were last seen after it. -/
theorem Before.mem_gap_iff (hb : Before h now) (hlast : lastSeen? stream h = some t) :
    other ∈ gap stream h ↔ ∃ u, lastSeen? other h = some u ∧ t < u := by
  induction h generalizing now with
  | nil => cases hlast
  | cons x h ih =>
    have hpast : ∀ {s : String} {u : Nat}, lastSeen? s h = some u → u < x.sighting.time := by
      intro s u hu
      obtain ⟨y, hy, -, rfl⟩ := exists_of_lastSeen? hu
      exact (List.pairwise_cons.mp hb.pairwise).1 y hy
    by_cases hx : x.stream = stream
    · rw [lastSeen?_of_eq hx] at hlast
      obtain rfl := Option.some.inj hlast
      rw [gap_of_eq hx]
      refine ⟨fun h => absurd h (Finset.notMem_empty _), ?_⟩
      rintro ⟨u, hu, hlt⟩
      by_cases hother : x.stream = other
      · rw [lastSeen?_of_eq hother] at hu
        exact absurd hlt (Option.some.inj hu ▸ Nat.lt_irrefl _)
      · rw [lastSeen?_of_ne hother] at hu
        exact absurd hlt (Nat.lt_asymm (hpast hu))
    · rw [lastSeen?_of_ne hx] at hlast
      rw [gap_of_ne hx, Finset.mem_insert, ih hb.tail hlast]
      by_cases hother : x.stream = other
      · rw [lastSeen?_of_eq hother]
        exact ⟨fun _ => ⟨_, rfl, hpast hlast⟩, fun _ => .inl hother.symm⟩
      · rw [lastSeen?_of_ne hother]
        exact or_iff_right (Ne.symm hother)

/-! ### What is recalled -/

variable {cap : Nat}

/-- A stream recalls something only if its gap, with what was seen since, is small enough. -/
theorem recalled_eq (hcap : 0 < cap) (others : Finset String) (h : History) :
    recalled cap stream others h =
      if (others ∪ gap stream h).card < cap then recalled cap stream ∅ h else [] := by
  induction h generalizing others with
  | nil => simp [recalled]
  | cons x h ih =>
    by_cases hx : x.stream = stream
    · rw [gap_of_eq hx, Finset.union_empty, recalled, recalled, if_pos hx, if_pos hx,
        Finset.card_empty, if_pos hcap]
    · rw [gap_of_ne hx, recalled, recalled, if_neg hx, if_neg hx, ih, ih (insert x.stream ∅),
        Finset.insert_union, Finset.union_insert, Finset.insert_union, Finset.empty_union]
      have hsubset : insert x.stream (gap stream h) ⊆ insert x.stream (others ∪ gap stream h) :=
        Finset.insert_subset_insert _ Finset.subset_union_right
      -- The streams seen since only make the set larger, so its bound implies the other one.
      split
      · rename_i hcard
        rw [if_pos (Nat.lt_of_le_of_lt (Finset.card_le_card hsubset) hcard)]
      · rfl

theorem recalled_of_eq (hcap : 0 < cap) (hx : x.stream = stream) (h : History) :
    recalled cap stream ∅ (x :: h) = x.sighting :: recalled cap stream ∅ h := by
  rw [recalled, if_pos hx, Finset.card_empty, if_pos hcap]

theorem recalled_of_ne (hcap : 0 < cap) (hx : x.stream ≠ stream)
    (hgap : (gap stream (x :: h)).card < cap) :
    recalled cap stream ∅ (x :: h) = recalled cap stream ∅ h := by
  rw [recalled, if_neg hx, recalled_eq hcap, Finset.insert_union, Finset.empty_union,
    ← gap_of_ne hx, if_pos hgap]

theorem recalled_eq_nil (hcap : 0 < cap) (hgap : cap ≤ (gap stream h).card) :
    recalled cap stream ∅ h = [] := by
  rw [recalled_eq hcap, Finset.empty_union, if_neg (Nat.not_lt.mpr hgap)]

theorem recalled_sublist (cap : Nat) (stream : String) (others : Finset String) (h : History) :
    (recalled cap stream others h).Sublist ((h.filter (·.stream = stream)).map Visit.sighting) := by
  induction h generalizing others with
  | nil => exact .refl _
  | cons x h ih =>
    rw [recalled]
    by_cases hx : x.stream = stream
    · rw [if_pos hx, List.filter_cons_of_pos (by simpa using hx), List.map_cons]
      split
      · exact (ih ∅).cons_cons _
      · exact List.nil_sublist _
    · rw [if_neg hx, List.filter_cons_of_neg (by simpa using hx)]
      exact ih _

/-- What is recalled came one after the other. -/
theorem Before.recalled_pairwise (hb : Before h now) (cap : Nat) (stream : String)
    (others : Finset String) :
    (recalled cap stream others h).Pairwise fun x y => y.time < x.time :=
  (List.pairwise_map.mpr (hb.pairwise.sublist List.filter_sublist)).sublist
    (recalled_sublist cap stream others h)

/-- Who recalls something recalls what came last. -/
theorem exists_mem_recalled (hcap : 0 < cap) (hlast : lastSeen? stream h = some t)
    (hgap : (gap stream h).card < cap) : ∃ x ∈ recalled cap stream ∅ h, x.time = t := by
  induction h with
  | nil => cases hlast
  | cons x h ih =>
    by_cases hx : x.stream = stream
    · rw [lastSeen?_of_eq hx] at hlast
      rw [recalled_of_eq hcap hx]
      exact ⟨x.sighting, List.mem_cons_self, Option.some.inj hlast⟩
    · rw [lastSeen?_of_ne hx] at hlast
      rw [recalled_of_ne hcap hx hgap]
      rw [gap_of_ne hx] at hgap
      exact ih hlast (Nat.lt_of_le_of_lt (Finset.card_le_card (Finset.subset_insert _ _)) hgap)

/-- What is recalled of a stream came no later than when it was last seen. -/
theorem Before.le_of_mem_recalled (hb : Before h now) {others : Finset String} {y : Sighting}
    (hy : y ∈ recalled cap stream others h) : ∃ u, lastSeen? stream h = some u ∧ y.time ≤ u := by
  obtain ⟨z, hz, rfl⟩ := List.mem_map.mp ((recalled_sublist cap stream others h).subset hy)
  obtain ⟨hmem, hstream⟩ := List.mem_filter.mp hz
  clear hy hz
  induction h generalizing now with
  | nil => cases hmem
  | cons x h ih =>
    by_cases hx : x.stream = stream
    · refine ⟨_, lastSeen?_of_eq hx, ?_⟩
      rcases List.mem_cons.mp hmem with rfl | hmem
      · exact Nat.le_refl _
      · exact hb.tail.past z hmem
    · rw [lastSeen?_of_ne hx]
      rcases List.mem_cons.mp hmem with rfl | hmem
      · exact absurd (by simpa using hstream) hx
      · exact ih hb.tail hmem

/-! ### Age -/

/-- Whether a stream was seen lately. -/
def IsFresh (h : History) (maxAge now : Nat) (stream : String) : Prop :=
  ∃ t, lastSeen? stream h = some t ∧ now - t ≤ maxAge

variable {maxAge : Nat}

theorem IsFresh.mono (hfresh : h.IsFresh maxAge t stream) (ht : now ≤ t) :
    h.IsFresh maxAge now stream := by
  obtain ⟨u, hu, hle⟩ := hfresh
  exact ⟨u, hu, by omega⟩

/-- What was seen later is not older. -/
theorem IsFresh.of_mem_gap (hb : Before h now) (hfresh : h.IsFresh maxAge t stream)
    (hother : other ∈ gap stream h) : h.IsFresh maxAge t other := by
  obtain ⟨u, hu, hle⟩ := hfresh
  obtain ⟨r, hr, hlt⟩ := (hb.mem_gap_iff hu).mp hother
  exact ⟨r, hr, by omega⟩

/-- Whoever was seen since a stream was has a smaller gap. -/
theorem Before.card_gap_lt (hb : Before h now) (hlast : lastSeen? stream h = some t)
    (hother : other ∈ gap stream h) : (gap other h).card < (gap stream h).card := by
  obtain ⟨u, hu, hlt⟩ := (hb.mem_gap_iff hlast).mp hother
  refine Finset.card_lt_card ⟨fun z hz => ?_, fun hsubset => not_mem_gap other h (hsubset hother)⟩
  obtain ⟨r, hr, hlt'⟩ := (hb.mem_gap_iff hu).mp hz
  exact (hb.mem_gap_iff hlast).mpr ⟨r, hr, by omega⟩

/-- What a stream recalls that was not seen lately is too old, and stays so. -/
theorem Before.recalled_too_old (hb : Before h now) (hold : ¬ h.IsFresh maxAge now stream)
    (ht : now ≤ t) (others : Finset String) :
    (recalled cap stream others h).filter (fun x => t - x.time ≤ maxAge) = [] := by
  rw [List.filter_eq_nil_iff]
  intro y hy
  obtain ⟨u, hu, hle⟩ := hb.le_of_mem_recalled hy
  have hage : ¬ now - u ≤ maxAge := fun h => hold ⟨u, hu, h⟩
  have hpast := hb.le_of_lastSeen? hu
  simp only [decide_eq_true_eq]
  omega

end History

end LogIntake
