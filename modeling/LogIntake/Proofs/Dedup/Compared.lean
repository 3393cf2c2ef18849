import LogIntake.Proofs.Dedup.Steady

/-!
# What a deduplicator compares

An embedding is compared with those in the window of its stream that are young enough, and joins
them. Making room for a stream only takes away windows of other streams, so neither the comparison
nor the window after it depends on what is forgotten (`consider_eq_present`).

Hence a deduplicator that is only given embeddings of one length keeps and compares no others
(`IsUniform`), whatever it forgets.
-/

namespace LogIntake

namespace Deduplicator

variable {windows : List (String × Window)} {stream : String} {n : Nat}

theorem subset_forgetIdle (idlest : List (String × Window) → Option String) (cap : Nat)
    (windows : List (String × Window)) (fuel : Nat) :
    forgetIdle idlest cap windows fuel ⊆ windows := by
  induction fuel generalizing windows with
  | zero => exact List.Subset.refl _
  | succ fuel ih =>
    rw [forgetIdle]
    split
    · split
      · exact List.Subset.trans (ih _) List.eraseP_subset
      · exact List.Subset.refl _
    · exact List.Subset.refl _

/-- Nothing is found among fewer windows that is not found among all. -/
theorem lookup_eq_none_of_subset {room : List (String × Window)} (hsubset : room ⊆ windows)
    (h : windows.lookup stream = none) : room.lookup stream = none :=
  List.lookup_eq_none_iff.mpr fun p hp => List.lookup_eq_none_iff.mp h p (hsubset hp)

theorem mem_or_of_mem_put {w : Window} {p : String × Window} (h : p ∈ put windows stream w) :
    p = (stream, w) ∨ p ∈ windows := by
  induction windows with
  | nil => exact .inl (List.mem_singleton.mp h)
  | cons q windows ih =>
    rw [put] at h
    split at h
    · rename_i hstream
      rcases List.mem_cons.mp h with rfl | h
      · exact .inl (congrArg (·, w) hstream)
      · exact .inr (List.mem_cons_of_mem _ h)
    · rcases List.mem_cons.mp h with rfl | h
      · exact .inr List.mem_cons_self
      · exact (ih h).imp_right (List.mem_cons_of_mem _)

/-! ### What is compared -/

/-- The window that an embedding of a stream is looked at in, without what is too old. -/
def present (d : Deduplicator) (stream : String) (now : Nat) : Window :=
  (d.windowOf stream now).expire now d.settings.maxAge

/-- The embeddings that an embedding of a stream is compared with. -/
def compared (d : Deduplicator) (stream : String) (now : Nat) : List Embedding :=
  (d.present stream now).sightings.map Sighting.vector

/-- The decision on an embedding and the windows after it, some of which may be forgotten, whichever
they are. -/
theorem considerBy_eq_present (idlest : List (String × Window) → Option String) (d : Deduplicator)
    (stream : String) (v : Embedding) (now : Nat) :
    ∃ room ⊆ d.windows, d.considerBy idlest stream v now =
      (if d.settings.minExamples.toNat ≤
          (d.present stream now).similarTo d.settings.threshold v then .suppress else .accept,
        { d with
          windows := put room stream
            ((d.present stream now).push v now d.settings.maxEntries) }) := by
  refine ⟨if (d.window? stream).isSome then d.windows else d.makeRoom idlest, ?_, ?_⟩
  · split
    · exact List.Subset.refl _
    · exact subset_forgetIdle _ _ _ _
  · cases h : d.windows.lookup stream with
    | some w =>
      simp only [considerBy, present, windowOf, window?, h, Option.isSome_some, if_true]
    | none =>
      -- What is forgotten to make room is no window of this stream.
      have hroom : (d.makeRoom idlest).lookup stream = none :=
        lookup_eq_none_of_subset (subset_forgetIdle _ _ _ _) h
      simp only [considerBy, present, windowOf, window?, h, hroom, Option.isSome_none,
        Bool.false_eq_true, if_false]

/-- The decision on an embedding and the windows after it, some of which may be forgotten. -/
theorem consider_eq_present (d : Deduplicator) (stream : String) (v : Embedding) (now : Nat) :
    ∃ room ⊆ d.windows, d.consider stream v now =
      (if d.settings.minExamples.toNat ≤
          (d.present stream now).similarTo d.settings.threshold v then .suppress else .accept,
        { d with
          windows := put room stream
            ((d.present stream now).push v now d.settings.maxEntries) }) :=
  d.considerBy_eq_present idlest? stream v now

/-- A decision is made by comparing the embedding with those in the window, and with no others. -/
theorem fst_consider (d : Deduplicator) (stream : String) (v : Embedding) (now : Nat) :
    (d.consider stream v now).1 =
      if d.settings.minExamples.toNat ≤
        (d.compared stream now).countP (Embedding.similar d.settings.threshold · v)
      then .suppress else .accept := by
  obtain ⟨room, -, heq⟩ := d.consider_eq_present stream v now
  rw [heq, compared, List.countP_map]
  rfl

/-! ### What is kept -/

/-- All embeddings in the windows have a length. -/
def IsUniform (n : Nat) (d : Deduplicator) : Prop :=
  ∀ p ∈ d.windows, ∀ s ∈ p.2.sightings, s.vector.length = n

variable {d : Deduplicator}

theorem IsUniform.present (hd : d.IsUniform n) (stream : String) (now : Nat) :
    ∀ s ∈ (d.present stream now).sightings, s.vector.length = n := by
  intro s hs
  have hs : s ∈ (d.windowOf stream now).sightings := (List.mem_filter.mp hs).1
  rw [windowOf] at hs
  cases h : d.windows.lookup stream with
  | none =>
    rw [h] at hs
    cases hs
  | some w =>
    rw [h] at hs
    exact hd _ (mem_of_lookup h) s hs

theorem IsUniform.compared (hd : d.IsUniform n) {now : Nat} {x : Embedding}
    (hx : x ∈ d.compared stream now) : x.length = n := by
  obtain ⟨s, hs, rfl⟩ := List.mem_map.mp hx
  exact hd.present stream now s hs

theorem IsUniform.expire (hd : d.IsUniform n) (now : Nat) : (d.expire now).IsUniform n := by
  intro p hp s hs
  obtain ⟨q, hq, rfl⟩ := List.mem_map.mp (List.mem_filter.mp hp).1
  exact hd q hq s (List.mem_filter.mp hs).1

theorem IsUniform.consider (hd : d.IsUniform n) {v : Embedding} (hv : v.length = n)
    (stream : String) (now : Nat) : (d.consider stream v now).2.IsUniform n := by
  obtain ⟨room, hroom, heq⟩ := d.consider_eq_present stream v now
  rw [heq]
  intro p hp s hs
  -- A window of another stream is left as it was; that of this stream gets the new vector.
  rcases mem_or_of_mem_put hp with rfl | hp
  · rcases List.mem_append.mp (List.mem_of_mem_drop hs) with hs | hs
    · exact hd.present stream now s hs
    · rw [List.mem_singleton.mp hs]
      exact hv
  · exact hd p (hroom hp) s hs

end Deduplicator

end LogIntake
