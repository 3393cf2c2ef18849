import LogIntake.Text.Blank
import Mathlib.Data.List.DropRight

/-!
# Trimming

What a trimmed text keeps: a text is blank exactly where trimming leaves nothing of it, nothing is
lost of a text that neither begins nor ends with a blank, and more blanks at an end do not count.

A text is **trimmed** if there is something in it and no blank around it (`IsTrimmed`), and
**stripped** if something in it is not blank and it does not end with a line end (`IsStripped`).
Trimming and dropping line ends make such texts, and leave them as they are.
-/

namespace LogIntake.Text

variable {α : Type} {p : α → Bool} {xs : List α}

/-! ### Runs of elements -/

theorem dropTrailing_eq_rdropWhile (p : α → Bool) (xs : List α) :
    dropTrailing p xs = xs.rdropWhile p :=
  rfl

theorem dropAround_eq_nil_iff : dropAround p xs = [] ↔ ∀ x ∈ xs, p x := by
  rw [dropAround, dropTrailing_eq_rdropWhile, List.rdropWhile_eq_nil_iff]
  constructor
  · intro h x hx
    rw [← List.takeWhile_append_dropWhile (p := p) (l := xs)] at hx
    rcases List.mem_append.mp hx with hx | hx
    · exact List.mem_takeWhile_imp hx
    · exact h x hx
  · exact fun h x hx => h x ((List.dropWhile_sublist p).subset hx)

/-- A trailing run may be longer. -/
theorem dropAround_concat {x : α} (h : p x) : dropAround p (xs ++ [x]) = dropAround p xs := by
  rw [dropAround, dropAround, dropLeading, dropLeading, List.dropWhile_append]
  split
  · rename_i hall
    rw [List.isEmpty_iff.mp hall, List.dropWhile_cons_of_pos h, List.dropWhile_nil]
  · rw [dropTrailing_eq_rdropWhile, List.rdropWhile_concat_pos p _ x h]
    rfl

/-- Nothing is dropped where there is no run at either end. -/
theorem dropAround_eq_self (hfirst : ∀ x ∈ xs.head?, ¬ p x) (hlast : ∀ x ∈ xs.getLast?, ¬ p x) :
    dropAround p xs = xs := by
  cases xs with
  | nil => rfl
  | cons x ys =>
    rw [dropAround, dropLeading, List.dropWhile_cons_of_neg (hfirst x rfl),
      dropTrailing_eq_rdropWhile, List.rdropWhile_eq_self_iff]
    exact fun hne => hlast _ (List.getLast?_eq_getLast_of_ne_nil hne)

/-- What is left does not begin with an element of the run. -/
theorem not_of_mem_head?_dropAround {x : α} (h : x ∈ (dropAround p xs).head?) : ¬ p x := by
  obtain ⟨rest, hrest⟩ : dropAround p xs <+: xs.dropWhile p := by
    rw [dropAround, dropTrailing_eq_rdropWhile, dropLeading]
    exact List.rdropWhile_prefix p _
  have hne : dropAround p xs ≠ [] := by
    intro hnil
    rw [hnil] at h
    cases h
  have hhead : (xs.dropWhile p).head? = some x := by
    rw [← hrest, List.head?_append_of_ne_nil _ hne]
    exact h
  have hnot := List.head?_dropWhile_not p xs
  rw [hhead] at hnot
  exact Bool.eq_false_iff.mp hnot

/-- What is left does not end with an element of the run. -/
theorem not_of_mem_getLast?_dropTrailing {x : α}
    (h : x ∈ (dropTrailing p xs).getLast?) : ¬ p x := by
  rw [dropTrailing_eq_rdropWhile] at h
  obtain ⟨hne, rfl⟩ := List.mem_getLast?_eq_getLast h
  exact List.rdropWhile_last_not p xs hne

/-- Runs are dropped that were put around what neither begins nor ends with an element of one. -/
theorem dropAround_append {before after : List α} (hbefore : ∀ x ∈ before, p x)
    (hafter : ∀ x ∈ after, p x) (hfirst : ∀ x ∈ xs.head?, ¬ p x)
    (hlast : ∀ x ∈ xs.getLast?, ¬ p x) : dropAround p (before ++ xs ++ after) = xs := by
  have hleading : dropAround p (before ++ xs ++ after) = dropAround p (xs ++ after) := by
    rw [dropAround, dropLeading, List.append_assoc, List.dropWhile_append_of_pos hbefore]
    rfl
  cases xs with
  | nil => exact hleading.trans (dropAround_eq_nil_iff.mpr hafter)
  | cons x ys =>
    have hself := dropAround_eq_self hfirst hlast
    rw [dropAround, dropLeading, List.dropWhile_cons_of_neg (hfirst x rfl)] at hself
    have hreverse : ∀ y ∈ after.reverse, p y := fun y hy => hafter y (List.mem_reverse.mp hy)
    rw [hleading, dropAround, dropLeading, List.cons_append,
      List.dropWhile_cons_of_neg (hfirst x rfl), dropTrailing, ← List.cons_append,
      List.reverse_append, List.dropWhile_append_of_pos hreverse]
    exact hself

/-- What holds of a trailing run is decided without it. -/
theorem all_dropTrailing {q : α → Bool} (h : ∀ x, q x → p x) :
    (dropTrailing q xs).all p = xs.all p := by
  have hrun : (xs.rtakeWhile q).all p :=
    List.all_eq_true.mpr fun x hx => h x (List.mem_rtakeWhile_imp hx)
  conv_rhs => rw [← List.rdropWhile_append_rtakeWhile (p := q) (l := xs), List.all_append, hrun]
  rw [Bool.and_true, dropTrailing_eq_rdropWhile]

/-! ### Texts -/

/-- A text is blank where trimming leaves nothing. -/
theorem trim_eq_empty_iff {s : String} : trim s = "" ↔ isBlankText s := by
  rw [trim, String.ofList_eq_empty_iff, dropAround_eq_nil_iff, isBlankText, List.all_eq_true]

/-- A text that neither begins nor ends with a blank is left as it is. -/
theorem trim_eq_self {s : String} (hfirst : ∀ c ∈ s.toList.head?, isBlank c = false)
    (hlast : ∀ c ∈ s.toList.getLast?, isBlank c = false) : trim s = s := by
  rw [trim, dropAround_eq_self, String.ofList_toList]
  · exact fun c hc => Bool.eq_false_iff.mp (hfirst c hc)
  · exact fun c hc => Bool.eq_false_iff.mp (hlast c hc)

/-- No digit is blank. -/
theorem isBlank_of_isDigit {c : Char} (h : c.isDigit) : isBlank c = false := by
  obtain ⟨hlow, hhigh⟩ : 48 ≤ c.toNat ∧ c.toNat ≤ 57 := by
    rwa [Char.isDigit, Bool.and_eq_true, decide_eq_true_eq, decide_eq_true_eq] at h
  simp only [isBlank, blankRanges, List.any_cons, List.any_nil, Bool.or_false,
    Bool.or_eq_false_iff, Bool.and_eq_false_iff, decide_eq_false_iff_not]
  omega

theorem isBlankText_eq_false_iff {s : String} :
    isBlankText s = false ↔ ∃ c ∈ s.toList, isBlank c = false := by
  rw [isBlankText, List.all_eq_false]
  simp only [Bool.not_eq_true]

/-- Line ends are blank. -/
theorem isBlank_of_isLineEnd {c : Char} (h : c == '\n' || c == '\r') : isBlank c := by
  rw [Bool.or_eq_true, beq_iff_eq, beq_iff_eq] at h
  rcases h with rfl | rfl <;> decide

/-- Line ends are blank, so a text without those at its end is as blank as before. -/
theorem isBlankText_trimLineEnd (s : String) : isBlankText (trimLineEnd s) = isBlankText s := by
  rw [isBlankText, isBlankText, trimLineEnd, String.toList_ofList]
  exact all_dropTrailing fun c => isBlank_of_isLineEnd

/-- Blanks around a text are dropped. -/
theorem trim_append {before cs after : List Char} (hbefore : ∀ c ∈ before, isBlank c)
    (hafter : ∀ c ∈ after, isBlank c) (hfirst : ∀ c ∈ cs.head?, isBlank c = false)
    (hlast : ∀ c ∈ cs.getLast?, isBlank c = false) :
    trim (String.ofList (before ++ cs ++ after)) = String.ofList cs := by
  rw [trim, String.toList_ofList, dropAround_append hbefore hafter]
  · exact fun c hc => Bool.eq_false_iff.mp (hfirst c hc)
  · exact fun c hc => Bool.eq_false_iff.mp (hlast c hc)

/-! ### Trimmed and stripped texts -/

/-- A text that is not empty, with no blank around it. -/
structure IsTrimmed (s : String) : Prop where
  nonempty : s ≠ ""
  first : ∀ c ∈ s.toList.head?, isBlank c = false
  last : ∀ c ∈ s.toList.getLast?, isBlank c = false

/-- A text in which something is not blank, without a line end behind it. -/
structure IsStripped (s : String) : Prop where
  visible : ∃ c ∈ s.toList, isBlank c = false
  last : ∀ c ∈ s.toList.getLast?, c ≠ '\n' ∧ c ≠ '\r'

variable {s t : String}

theorem IsTrimmed.trim_eq (h : IsTrimmed s) : trim s = s :=
  trim_eq_self h.first h.last

/-- Trimming leaves a trimmed text, if it leaves anything. -/
theorem isTrimmed_trim (h : isBlankText s = false) : IsTrimmed (trim s) where
  nonempty := by
    rw [ne_eq, trim_eq_empty_iff, h]
    exact Bool.false_ne_true
  first := by
    intro c hc
    rw [trim, String.toList_ofList] at hc
    exact Bool.eq_false_iff.mpr (not_of_mem_head?_dropAround hc)
  last := by
    intro c hc
    rw [trim, String.toList_ofList] at hc
    exact Bool.eq_false_iff.mpr (not_of_mem_getLast?_dropTrailing hc)

/-- Trimmed texts are trimmed together, whatever stands between them. -/
theorem IsTrimmed.append (hs : IsTrimmed s) (ht : IsTrimmed t) (between : String) :
    IsTrimmed (s ++ between ++ t) where
  nonempty := by
    intro h
    exact hs.nonempty (String.append_eq_empty_iff.mp (String.append_eq_empty_iff.mp h).1).1
  first := by
    have hne : s.toList ≠ [] := fun h => hs.nonempty (String.toList_eq_nil_iff.mp h)
    intro c hc
    rw [String.toList_append, String.toList_append, List.append_assoc,
      List.head?_append_of_ne_nil _ hne] at hc
    exact hs.first c hc
  last := by
    have hne : t.toList ≠ [] := fun h => ht.nonempty (String.toList_eq_nil_iff.mp h)
    intro c hc
    rw [String.toList_append, List.getLast?_append_of_ne_nil _ hne] at hc
    exact ht.last c hc

theorem IsStripped.isBlankText_eq_false (h : IsStripped s) : isBlankText s = false :=
  isBlankText_eq_false_iff.mpr h.visible

theorem IsStripped.trimLineEnd_eq (h : IsStripped s) : trimLineEnd s = s := by
  have hlast : ∀ hne : s.toList ≠ [],
      ¬ (s.toList.getLast hne == '\n' || s.toList.getLast hne == '\r') := by
    intro hne
    obtain ⟨hfeed, hreturn⟩ := h.last _ (List.getLast?_eq_getLast_of_ne_nil hne)
    rw [Bool.or_eq_true, beq_iff_eq, beq_iff_eq, not_or]
    exact ⟨hfeed, hreturn⟩
  rw [trimLineEnd, dropTrailing_eq_rdropWhile, List.rdropWhile_eq_self_iff.mpr hlast,
    String.ofList_toList]

/-- Dropping line ends leaves a stripped text, unless the text is blank. -/
theorem isStripped_trimLineEnd (h : isBlankText s = false) : IsStripped (trimLineEnd s) where
  visible := isBlankText_eq_false_iff.mp (by rw [isBlankText_trimLineEnd, h])
  last := by
    intro c hc
    rw [trimLineEnd, String.toList_ofList] at hc
    have hnot := not_of_mem_getLast?_dropTrailing hc
    rwa [Bool.or_eq_true, beq_iff_eq, beq_iff_eq, not_or] at hnot

/-- Stripped texts are those that dropping line ends leaves as they are. -/
theorem isStripped_iff : IsStripped s ↔ isBlankText s = false ∧ trimLineEnd s = s := by
  refine ⟨fun h => ⟨h.isBlankText_eq_false, h.trimLineEnd_eq⟩, ?_⟩
  rintro ⟨hblank, hsame⟩
  exact hsame ▸ isStripped_trimLineEnd hblank

instance : Decidable (IsStripped s) :=
  decidable_of_iff _ isStripped_iff.symm

/-- A trimmed text is stripped, since line ends are blank. -/
theorem IsTrimmed.isStripped (h : IsTrimmed s) : IsStripped s where
  visible := by
    rw [← isBlankText_eq_false_iff, ← Bool.not_eq_true, ← trim_eq_empty_iff, h.trim_eq]
    exact h.nonempty
  last := by
    intro c hc
    have hblank := h.last c hc
    constructor <;> rintro rfl <;> exact absurd hblank (by decide)

end LogIntake.Text
