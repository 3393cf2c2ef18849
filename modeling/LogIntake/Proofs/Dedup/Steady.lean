import Mathlib.Data.List.Perm.Subperm
import LogIntake.Proofs.Dedup.Windows

/-!
# Deduplicators that forget nothing for its age

As long as there is room for all streams and no embedding is too old, a deduplicator forgets
embeddings only for their number. What it recalls of a stream is then told from the embeddings of
this stream alone (`vectors_consider`), whatever the others do and however often it is asked to
drop what is too old (`expire_of_isYoung`).
-/

namespace LogIntake.Deduplicator

/-- The embeddings that are recalled of a stream, oldest first. -/
def vectors (d : Deduplicator) (stream : String) : List Embedding :=
  (d.window? stream).elim [] fun w => w.sightings.map Sighting.vector

/-- The decision on an embedding, from those that are recalled of its stream. -/
def decide (s : DedupSettings) (past : List Embedding) (v : Embedding) : Decision :=
  if s.minExamples.toNat ≤ past.countP (Embedding.similar s.threshold · v) then .suppress
  else .accept

/-- What is recalled of a stream after one more embedding. -/
def remember (s : DedupSettings) (past : List Embedding) (v : Embedding) : List Embedding :=
  Window.keepLast (max s.maxEntries 1) (past ++ [v])

/-- There are windows of some streams only, one for each, and none of them is empty. -/
structure IsSteady (known : List String) (d : Deduplicator) : Prop where
  nodup : (streams d.windows).Nodup
  known : streams d.windows ⊆ known
  filled : ∀ p ∈ d.windows, p.2.sightings ≠ []

/-- No embedding is too old at a time. -/
def IsYoung (d : Deduplicator) (now : Nat) : Prop :=
  ∀ p ∈ d.windows, ∀ x ∈ p.2.sightings, now - x.time ≤ d.settings.maxAge

instance (d : Deduplicator) (now : Nat) : Decidable (d.IsYoung now) :=
  inferInstanceAs (Decidable (∀ p ∈ d.windows, ∀ x ∈ p.2.sightings, now - x.time ≤ _))

variable {d : Deduplicator} {known : List String} {stream : String} {now : Nat}

theorem isSteady_empty (known : List String) (s : DedupSettings) : (empty s).IsSteady known :=
  ⟨.nil, List.nil_subset _, nofun⟩

theorem expire_window {w : Window} {maxAge : Nat}
    (h : ∀ x ∈ w.sightings, now - x.time ≤ maxAge) : w.expire now maxAge = w := by
  have hall : w.sightings.filter (fun x => now - x.time ≤ maxAge) = w.sightings :=
    List.filter_eq_self.mpr fun x hx => decide_eq_true (h x hx)
  rw [Window.expire, hall]

/-- Where nothing is too old, dropping what is too old changes nothing. -/
theorem expire_of_isYoung (hd : d.IsSteady known) (hyoung : d.IsYoung now) :
    d.expire now = d := by
  have hmap : d.windows.map (fun p => (p.1, p.2.expire now d.settings.maxAge)) = d.windows := by
    refine (List.map_congr_left fun p hp => ?_).trans (List.map_id _)
    rw [expire_window (hyoung p hp)]
    rfl
  have hfilter : d.windows.filter (fun p => !p.2.isEmpty) = d.windows :=
    List.filter_eq_self.mpr fun p hp => by
      simpa [Window.isEmpty] using hd.filled p hp
  rw [expire, hmap, hfilter]

/-- A window that is replaced is found, and the others are found as before. -/
theorem lookup_put (windows : List (String × Window)) (stream other : String) (w : Window) :
    (put windows stream w).lookup other =
      if other = stream then some w else windows.lookup other := by
  induction windows with
  | nil =>
    rw [put, List.lookup_cons]
    by_cases h : other = stream
    · simp [h]
    · simp [h, beq_eq_false_iff_ne.mpr h]
  | cons p rest ih =>
    obtain ⟨s, v⟩ := p
    rw [put]
    by_cases hs : s = stream
    · subst hs
      by_cases h : other = s
      · simp [h]
      · simp [h, List.lookup_cons, beq_eq_false_iff_ne.mpr h]
    · rw [if_neg hs, List.lookup_cons, List.lookup_cons, ih]
      by_cases h : other = s
      · subst h
        simp [hs]
      · simp [beq_eq_false_iff_ne.mpr h]

/-- The window of a stream, which is empty where it has not been seen. -/
def windowOf (d : Deduplicator) (stream : String) (now : Nat) : Window :=
  (d.windows.lookup stream).getD (.empty now)

theorem vectors_eq (d : Deduplicator) (stream : String) (now : Nat) :
    d.vectors stream = (d.windowOf stream now).sightings.map Sighting.vector := by
  rw [vectors, window?, windowOf]
  cases d.windows.lookup stream <;> rfl

theorem isYoung_windowOf (hyoung : d.IsYoung now) (hd : d.IsSteady known) (stream : String) :
    ∀ x ∈ (d.windowOf stream now).sightings, now - x.time ≤ d.settings.maxAge := by
  rw [windowOf]
  cases h : d.windows.lookup stream with
  | none => exact nofun
  | some w => exact hyoung _ ((lookup_eq_some_iff_mem hd.nodup).mp h)

/-- A stream for which there is room needs none. -/
theorem makeRoom_eq (hd : d.IsSteady known) (hstream : stream ∈ known)
    (hcap : known.length ≤ d.settings.maxStreams) :
    (if (d.window? stream).isSome then d.windows else d.makeRoom idlest?) = d.windows := by
  split
  · rfl
  · rename_i hnew
    rw [window?, isSome_lookup] at hnew
    have hlt : (streams d.windows).length + 1 ≤ known.length :=
      (List.subperm_of_subset (List.nodup_cons.mpr ⟨hnew, hd.nodup⟩)
        (List.cons_subset.mpr ⟨hstream, hd.known⟩)).length_le
    rw [streams, List.length_map] at hlt
    exact forgetIdle_of_lt _ (by omega) _

/-- **The decision on an embedding** and what it leaves, where nothing is forgotten. -/
theorem consider_eq (hd : d.IsSteady known) (hyoung : d.IsYoung now) (hstream : stream ∈ known)
    (hcap : known.length ≤ d.settings.maxStreams) (v : Embedding) :
    d.consider stream v now = (decide d.settings (d.vectors stream) v,
      { d with
        windows := put d.windows stream
          ((d.windowOf stream now).push v now d.settings.maxEntries) }) := by
  have hwindow := expire_window (isYoung_windowOf hyoung hd stream)
  have hfound : (d.windowOf stream now).similarTo d.settings.threshold v =
      (d.vectors stream).countP (Embedding.similar d.settings.threshold · v) := by
    rw [vectors_eq d stream now, List.countP_map]
    rfl
  rw [consider, considerBy, makeRoom_eq hd hstream hcap, decide, ← hfound]
  rw [windowOf] at hwindow ⊢
  simp only [hwindow]

section

variable (hd : d.IsSteady known) (hyoung : d.IsYoung now) (hstream : stream ∈ known)
  (hcap : known.length ≤ d.settings.maxStreams) (v : Embedding)
include hd hyoung hstream hcap

theorem isSteady_consider : (d.consider stream v now).2.IsSteady known := by
  rw [consider_eq hd hyoung hstream hcap]
  refine ⟨nodup_put hd.nodup, fun s hs => ?_, fun p hp => ?_⟩
  · rcases mem_streams_put.mp hs with rfl | hs
    · exact hstream
    · exact hd.known hs
  · rcases (mem_put hd.nodup).mp hp with rfl | ⟨hp, -⟩
    · refine List.ne_nil_of_length_pos ?_
      simp only [Window.push, Window.keepLast, List.length_drop, List.length_append,
        List.length_singleton]
      omega
    · exact hd.filled p hp

/-- **What is recalled** after an embedding: of its stream one more embedding, and of the others
what was recalled before. -/
theorem vectors_consider (other : String) : (d.consider stream v now).2.vectors other =
    if other = stream then remember d.settings (d.vectors stream) v else d.vectors other := by
  rw [consider_eq hd hyoung hstream hcap, vectors, window?, lookup_put]
  split
  · rw [vectors_eq d stream now, remember]
    simp [Window.push, Window.keepLast, List.map_drop]
  · rfl

end

end LogIntake.Deduplicator
