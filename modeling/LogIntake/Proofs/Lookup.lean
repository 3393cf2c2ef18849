/-!
# Looking up values

A list of keys with values is looked up by the first value under a key. What is found stands in the
list. What stands in the list is found if no key stands there twice, and then the order of the list
does not count.
-/

namespace LogIntake

variable {α β : Type} [BEq α] [LawfulBEq α] {l : List (α × β)} {k : α} {v : β}

theorem mem_of_lookup (h : l.lookup k = some v) : (k, v) ∈ l := by
  obtain ⟨before, after, rfl, -⟩ := List.lookup_eq_some_iff.mp h
  exact List.mem_append_right _ List.mem_cons_self

/-- What stands in a list without a key twice is what is found. -/
theorem lookup_eq_some_iff_mem (hnodup : (l.map Prod.fst).Nodup) :
    l.lookup k = some v ↔ (k, v) ∈ l := by
  refine ⟨mem_of_lookup, fun h => ?_⟩
  induction l with
  | nil => cases h
  | cons f l ih =>
    obtain ⟨hnew, hnodup⟩ := List.nodup_cons.mp hnodup
    rcases List.mem_cons.mp h with rfl | h
    · exact List.lookup_cons_self
    · have hne : (k == f.1) = false :=
        beq_false_of_ne fun heq => hnew (List.mem_map.mpr ⟨(k, v), h, heq⟩)
      rw [List.lookup_cons, hne]
      exact ih hnodup h

end LogIntake
