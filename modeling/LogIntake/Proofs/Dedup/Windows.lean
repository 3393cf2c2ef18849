import Mathlib.Data.List.Nodup
import LogIntake.Proofs.Dedup.Script
import LogIntake.Proofs.Lookup

/-!
# The windows of a deduplicator

A deduplicator has at most one window for each stream. What replacing a window, forgetting a
stream and dropping what is too old do is told here by membership; `Room` says how room is made
for a stream, where no more streams have a window than may: not at all, or by forgetting one
that was seen longest ago.
-/

namespace LogIntake

namespace Deduplicator

/-- The streams that have a window. -/
def streams (windows : List (String × Window)) : List String :=
  windows.map Prod.fst

variable {windows : List (String × Window)} {stream other : String} {w : Window}
  {p : String × Window}

theorem mem_streams : stream ∈ streams windows ↔ ∃ w, (stream, w) ∈ windows := by
  simp [streams]

theorem isSome_lookup : (windows.lookup stream).isSome = true ↔ stream ∈ streams windows := by
  rw [List.lookup_isSome_iff, mem_streams]
  constructor
  · rintro ⟨⟨s, v⟩, hmem, heq⟩
    obtain rfl : stream = s := by simpa using heq
    exact ⟨v, hmem⟩
  · rintro ⟨v, hmem⟩
    exact ⟨_, hmem, by simp⟩

/-! ### Replacing a window -/

theorem mem_put (hnodup : (streams windows).Nodup) :
    p ∈ put windows stream w ↔ p = (stream, w) ∨ p ∈ windows ∧ p.1 ≠ stream := by
  induction windows with
  | nil => simp [put]
  | cons q windows ih =>
    obtain ⟨s, v⟩ := q
    obtain ⟨hnew, hrest⟩ := List.nodup_cons.mp hnodup
    rw [put]
    by_cases hs : s = stream
    · subst hs
      have hother : p ∈ windows → p.1 ≠ s := fun hp heq =>
        hnew (mem_streams.mpr ⟨p.2, heq ▸ hp⟩)
      rw [if_pos rfl, List.mem_cons, List.mem_cons]
      refine or_congr_right ⟨fun hp => ⟨.inr hp, hother hp⟩, ?_⟩
      rintro ⟨rfl | hp, hne⟩
      · exact absurd rfl hne
      · exact hp
    · rw [if_neg hs, List.mem_cons, List.mem_cons, ih hrest]
      constructor
      · rintro (rfl | rfl | ⟨hp, hne⟩)
        · exact .inr ⟨.inl rfl, hs⟩
        · exact .inl rfl
        · exact .inr ⟨.inr hp, hne⟩
      · rintro (rfl | ⟨rfl | hp, hne⟩)
        · exact .inr (.inl rfl)
        · exact .inl rfl
        · exact .inr (.inr ⟨hp, hne⟩)

theorem streams_put (windows : List (String × Window)) (stream : String) (w : Window) :
    streams (put windows stream w) =
      if stream ∈ streams windows then streams windows else streams windows ++ [stream] := by
  induction windows with
  | nil => simp [put, streams]
  | cons q windows ih =>
    obtain ⟨s, v⟩ := q
    rw [put]
    by_cases hs : s = stream
    · subst hs
      simp [streams]
    · have hhead : stream ∈ streams ((s, v) :: windows) ↔ stream ∈ streams windows := by
        simp [streams, Ne.symm hs]
      rw [if_neg hs, streams, List.map_cons, ← streams, ih]
      simp only [hhead]
      split <;> rfl

theorem mem_streams_put :
    other ∈ streams (put windows stream w) ↔ other = stream ∨ other ∈ streams windows := by
  rw [streams_put]
  split
  · rename_i hmem
    refine ⟨.inr, ?_⟩
    rintro (rfl | hother)
    · exact hmem
    · exact hother
  · rw [List.mem_append, List.mem_singleton, or_comm]

theorem nodup_put (hnodup : (streams windows).Nodup) :
    (streams (put windows stream w)).Nodup := by
  rw [streams_put]
  split
  · exact hnodup
  · rename_i hmem
    refine List.nodup_append.mpr ⟨hnodup, List.nodup_singleton _, fun a ha b hb heq => hmem ?_⟩
    rwa [← List.mem_singleton.mp hb, ← heq]

theorem length_put (windows : List (String × Window)) (stream : String) (w : Window) :
    (put windows stream w).length =
      if stream ∈ streams windows then windows.length else windows.length + 1 := by
  have hlength := congrArg List.length (streams_put windows stream w)
  rw [streams, List.length_map] at hlength
  rw [hlength]
  split <;> simp [streams]

/-! ### Forgetting a stream -/

theorem streams_forget (windows : List (String × Window)) (stream : String) :
    streams (forget windows stream) = (streams windows).erase stream := by
  rw [streams, streams, List.erase_eq_eraseP', List.eraseP_map]
  rfl

theorem length_forget (h : stream ∈ streams windows) :
    (forget windows stream).length = windows.length - 1 := by
  have hlength := List.length_erase_of_mem h
  rw [← streams_forget, streams, streams, List.length_map, List.length_map] at hlength
  exact hlength

/-! ### Room for a stream -/

theorem IsIdlest.mem_streams (h : IsIdlest windows stream) : stream ∈ streams windows := by
  obtain ⟨w, hmem, -⟩ := h
  exact Deduplicator.mem_streams.mpr ⟨w, hmem⟩

theorem forgetIdle_of_lt {cap : Nat} (idlest : List (String × Window) → Option String)
    (h : windows.length < cap) (fuel : Nat) : forgetIdle idlest cap windows fuel = windows := by
  cases fuel with
  | zero => rfl
  | succ fuel => rw [forgetIdle, if_neg (Nat.not_le.mpr h)]

/-- Where as many streams as allowed have a window, one of them is forgotten. -/
theorem forgetIdle_of_eq {cap : Nat} (tie : TieBreak) (hcap : 0 < cap)
    (h : windows.length = cap) : ∃ idlest, IsIdlest windows idlest ∧
      forgetIdle tie.choose cap windows windows.length = forget windows idlest := by
  have hne : windows ≠ [] := List.ne_nil_of_length_pos (h ▸ hcap)
  obtain ⟨idlest, hidlest⟩ := Option.isSome_iff_exists.mp (tie.isSome hne)
  have hmem := (tie.isIdlest hidlest).mem_streams
  refine ⟨idlest, tie.isIdlest hidlest, ?_⟩
  obtain ⟨fuel, hfuel⟩ := Nat.exists_eq_succ_of_ne_zero (h ▸ Nat.ne_of_gt hcap)
  rw [hfuel, forgetIdle, if_pos (Nat.le_of_eq h.symm), hidlest]
  refine forgetIdle_of_lt _ ?_ fuel
  rw [length_forget hmem]
  omega

/-- How room for a window of a stream is made among others, of which there are at most `cap`. -/
inductive Room (cap : Nat) (windows : List (String × Window)) (stream : String) :
    List (String × Window) → Prop where
  | known (h : stream ∈ streams windows) : Room cap windows stream windows
  | free (h : stream ∉ streams windows) (hlength : windows.length < cap) :
    Room cap windows stream windows
  | forgets {idlest : String} (h : stream ∉ streams windows) (hlength : windows.length = cap)
    (hidlest : IsIdlest windows idlest) : Room cap windows stream (forget windows idlest)

theorem room (d : Deduplicator) (tie : TieBreak) (stream : String)
    (hlength : d.windows.length ≤ max d.settings.maxStreams 1) :
    Room (max d.settings.maxStreams 1) d.windows stream
      (if (d.window? stream).isSome then d.windows else d.makeRoom tie.choose) := by
  split
  · rename_i h
    exact .known (isSome_lookup.mp h)
  · rename_i h
    have h : stream ∉ streams d.windows := fun hmem => h (isSome_lookup.mpr hmem)
    rw [makeRoom]
    rcases Nat.lt_or_eq_of_le hlength with hlt | heq
    · rw [forgetIdle_of_lt _ hlt]
      exact .free h hlt
    · obtain ⟨idlest, hidlest, hforget⟩ := forgetIdle_of_eq tie (by omega) heq
      rw [hforget]
      exact .forgets h heq hidlest

variable {cap : Nat} {room : List (String × Window)}

theorem Room.subset (hroom : Room cap windows stream room) : room ⊆ windows := by
  cases hroom with
  | known | free => exact fun _ hp => hp
  | forgets => exact List.eraseP_subset

theorem Room.nodup (hroom : Room cap windows stream room)
    (hnodup : (streams windows).Nodup) : (streams room).Nodup := by
  cases hroom with
  | known | free => exact hnodup
  | forgets =>
    rw [streams_forget]
    exact hnodup.erase _

theorem Room.mem_streams (hroom : Room cap windows stream room) :
    stream ∈ streams room ↔ stream ∈ streams windows := by
  cases hroom with
  | known | free => exact .rfl
  | forgets hstream =>
    rw [streams_forget]
    exact ⟨fun hmem => List.mem_of_mem_erase hmem, fun hmem => absurd hmem hstream⟩

/-- There is room for the window of the stream. -/
theorem Room.length_put_le (hroom : Room cap windows stream room) (hcap : 0 < cap)
    (hlength : windows.length ≤ cap) : (put room stream w).length ≤ cap := by
  rw [length_put]
  cases hroom with
  | known hmem =>
    rw [if_pos hmem]
    exact hlength
  | free hmem hlt =>
    rw [if_neg hmem]
    exact hlt
  | forgets hmem hfull hidlest =>
    rw [if_neg fun hstill => hmem (List.mem_of_mem_erase (streams_forget _ _ ▸ hstill)),
      length_forget hidlest.mem_streams]
    omega

end Deduplicator

end LogIntake
