import LogIntake.Json.Tree
import LogIntake.Proofs.Lookup
import Mathlib.Data.List.Nodup

/-!
# The order of fields

The fields of an object have no order of their own, and a value keeps them in the order of their
keys. `Fields.insert` keeps this order (`Fields.isSorted_ofList`), so fields that are handed over in
any other order come back as they were (`Fields.ofList_eq_of_perm`). What stands under a key is what
was inserted there last (`Fields.get?_insert`), and sorted fields are the same if the same stands
under every key (`Fields.IsSorted.ext`).

`Within v w` says that a value lies inside another one, at any depth. A value is **canonical** if
the fields of all objects inside it are in order. The value of every text is
(`isCanonical_of_ofBytes?`).
-/

namespace LogIntake.Json

namespace Fields

variable {fields : Fields} {key : String} {value : Json}

/-- Whether fields are in increasing order of keys, so that no key stands there twice. -/
def IsSorted (fields : Fields) : Prop :=
  fields.Pairwise (·.1 < ·.1)

instance (fields : Fields) : Decidable (IsSorted fields) :=
  inferInstanceAs (Decidable (fields.Pairwise _))

/-! ### Insertion -/

/-- What is in fields after an insertion is new or was there before. -/
theorem eq_or_mem_of_mem_insert {f : String × Json} (h : f ∈ insert fields key value) :
    f = (key, value) ∨ f ∈ fields := by
  induction fields with
  | nil => exact .inl (List.mem_singleton.mp h)
  | cons g rest ih =>
    rw [insert] at h
    split at h
    · exact (List.mem_cons.mp h).imp_right (List.mem_cons_of_mem g)
    split at h
    · exact List.mem_cons.mp h
    · rcases List.mem_cons.mp h with rfl | h
      · exact .inr List.mem_cons_self
      · exact (ih h).imp_right (List.mem_cons_of_mem g)

/-- An insertion keeps the order. -/
theorem IsSorted.insert (h : IsSorted fields) : IsSorted (insert fields key value) := by
  induction fields with
  | nil => exact List.pairwise_singleton _ _
  | cons g rest ih =>
    obtain ⟨hfirst, hrest⟩ := List.pairwise_cons.mp h
    rw [Fields.insert]
    split
    · rename_i heq
      exact List.pairwise_cons.mpr ⟨fun f hf => heq ▸ hfirst f hf, hrest⟩
    split
    · rename_i hlt
      refine List.pairwise_cons.mpr ⟨fun f hf => ?_, h⟩
      rcases List.mem_cons.mp hf with rfl | hf
      · exact hlt
      · exact String.lt_trans hlt (hfirst f hf)
    · rename_i hne hle
      -- the first field stays in front, since its key comes before the new one
      refine List.pairwise_cons.mpr ⟨fun f hf => ?_, ih hrest⟩
      rcases eq_or_mem_of_mem_insert hf with rfl | hf
      · exact String.not_le.mp fun hge => hne (String.le_antisymm hge (String.not_lt.mp hle))
      · exact hfirst f hf

/-- An insertion under a key that is not there adds a field. -/
theorem insert_perm (h : key ∉ fields.map (·.1)) :
    (insert fields key value).Perm ((key, value) :: fields) := by
  induction fields with
  | nil => exact .refl _
  | cons g rest ih =>
    rw [List.map_cons, List.mem_cons, not_or] at h
    rw [insert, if_neg h.1]
    split
    · exact .refl _
    · exact ((ih h.2).cons g).trans (.swap _ g rest)

/-! ### Looking up -/

@[simp]
theorem get?_nil {k : String} : get? [] k = none :=
  rfl

theorem get?_cons {f : String × Json} {k : String} :
    get? (f :: fields) k = if k = f.1 then some f.2 else get? fields k := by
  rw [get?, List.lookup_cons]
  by_cases h : k = f.1
  · rw [beq_iff_eq.mpr h, if_pos h]
  · rw [beq_false_of_ne h, if_neg h]
    rfl

/-- An insertion gives its key a value, and leaves all other keys as they were. -/
@[simp]
theorem get?_insert {k : String} :
    get? (insert fields key value) k = if k = key then some value else get? fields k := by
  induction fields with
  | nil => exact get?_cons
  | cons g rest ih =>
    rw [insert]
    split
    · rename_i heq
      rw [get?_cons, get?_cons, heq]
      split <;> rfl
    split
    · exact get?_cons
    · rename_i hne _
      rw [get?_cons, get?_cons, ih]
      -- of the two keys that are compared, the one at the front is not the new one
      by_cases hk : k = g.1
      · rw [if_pos hk, if_pos hk, if_neg fun heq => hne (heq.symm.trans hk)]
      · rw [if_neg hk, if_neg hk]

/-! ### Fields in any order -/

theorem isSorted_foldl_insert (fs : List (String × Json)) (h : IsSorted fields) :
    IsSorted (fs.foldl (fun fs f => insert fs f.1 f.2) fields) := by
  induction fs generalizing fields with
  | nil => exact h
  | cons f fs ih => exact ih h.insert

/-- Fields that were collected are in order. -/
theorem isSorted_ofList (fs : List (String × Json)) : IsSorted (ofList fs) :=
  isSorted_foldl_insert fs .nil

theorem mem_foldl_insert (fs : List (String × Json)) {f : String × Json}
    (h : f ∈ fs.foldl (fun fs f => insert fs f.1 f.2) fields) : f ∈ fs ∨ f ∈ fields := by
  induction fs generalizing fields with
  | nil => exact .inr h
  | cons g fs ih =>
    rcases ih h with h | h
    · exact .inl (List.mem_cons_of_mem g h)
    · rcases eq_or_mem_of_mem_insert h with rfl | h
      · exact .inl List.mem_cons_self
      · exact .inr h

/-- Nothing is collected that was not handed over. -/
theorem mem_of_mem_ofList {fs : List (String × Json)} {f : String × Json} (h : f ∈ ofList fs) :
    f ∈ fs :=
  (mem_foldl_insert fs h).resolve_right List.not_mem_nil

/-- Fields with different keys are all kept. -/
theorem foldl_insert_perm (fs : List (String × Json))
    (h : (fs.map (·.1) ++ fields.map (·.1)).Nodup) :
    (fs.foldl (fun fs f => insert fs f.1 f.2) fields).Perm (fs ++ fields) := by
  induction fs generalizing fields with
  | nil => exact .refl _
  | cons f fs ih =>
    -- the keys of the fields that are left and of those inserted so far are always the same keys
    have hmiddle : (fs.map (·.1) ++ f.1 :: fields.map (·.1)).Nodup :=
      (List.perm_middle.nodup_iff).mpr h
    have hnew : f.1 ∉ fields.map (·.1) :=
      (List.nodup_cons.mp (List.nodup_append.mp hmiddle).2.1).1
    have hperm : (insert fields f.1 f.2).Perm (f :: fields) := insert_perm hnew
    have hkeys := (hperm.map (·.1)).append_left (fs.map (·.1))
    exact (ih (hkeys.nodup_iff.mpr hmiddle)).trans
      ((hperm.append_left fs).trans List.perm_middle)

/-- No key stands twice in sorted fields. -/
theorem IsSorted.nodup_keys (h : IsSorted fields) : (fields.map (·.1)).Nodup := by
  refine List.pairwise_map.mpr (h.imp ?_)
  intro f g hlt heq
  exact String.lt_irrefl g.1 (heq ▸ hlt)

/-- Sorted fields are the same if the same stands under every key. -/
theorem IsSorted.ext {fields' : Fields} (h : IsSorted fields) (h' : IsSorted fields')
    (hget : ∀ k, get? fields k = get? fields' k) : fields = fields' := by
  have hmem : ∀ f, f ∈ fields ↔ f ∈ fields' := by
    intro f
    rw [← lookup_eq_some_iff_mem h.nodup_keys, ← lookup_eq_some_iff_mem h'.nodup_keys]
    exact Eq.congr_left (hget f.1)
  have hperm : fields.Perm fields' :=
    (List.perm_ext_iff_of_nodup (List.Nodup.of_map _ h.nodup_keys)
      (List.Nodup.of_map _ h'.nodup_keys)).mpr hmem
  exact hperm.eq_of_pairwise (fun f g _ _ hlt hgt => absurd hgt (String.lt_asymm hlt)) h h'

/-- Sorted fields that were handed over in any order are what they were. -/
theorem ofList_eq_of_perm {fs : List (String × Json)} (hperm : fs.Perm fields)
    (h : IsSorted fields) : ofList fs = fields := by
  have hnodup : (fs.map (·.1) ++ ([] : Fields).map (·.1)).Nodup := by
    rw [List.map_nil, List.append_nil]
    exact (hperm.map (·.1)).nodup_iff.mpr h.nodup_keys
  have hall : (ofList fs).Perm (fs ++ []) := foldl_insert_perm fs hnodup
  rw [List.append_nil] at hall
  exact List.Perm.eq_of_pairwise (fun f g _ _ hlt hgt => absurd hgt (String.lt_asymm hlt))
    (isSorted_ofList fs) h (hall.trans hperm)

end Fields

/-! ### Values inside values -/

/-- A value lies inside another one, at any depth, or is it. -/
inductive Within (v : Json) : Json → Prop
  | self : Within v v
  | item {w : Json} {items : List Json} : w ∈ items → Within v w → Within v (.arr items)
  | field {k : String} {w : Json} {fields : Fields} :
    (k, w) ∈ fields → Within v w → Within v (.obj fields)

variable {v w : Json} {items : List Json}

@[simp]
theorem within_null : Within v .null ↔ v = .null :=
  ⟨fun h => by cases h; rfl, fun h => h ▸ .self⟩

@[simp]
theorem within_bool {b : Bool} : Within v (.bool b) ↔ v = .bool b :=
  ⟨fun h => by cases h; rfl, fun h => h ▸ .self⟩

@[simp]
theorem within_int {n : Int} : Within v (.int n) ↔ v = .int n :=
  ⟨fun h => by cases h; rfl, fun h => h ▸ .self⟩

@[simp]
theorem within_float {x : Number.Double} : Within v (.float x) ↔ v = .float x :=
  ⟨fun h => by cases h; rfl, fun h => h ▸ .self⟩

@[simp]
theorem within_str {s : String} : Within v (.str s) ↔ v = .str s :=
  ⟨fun h => by cases h; rfl, fun h => h ▸ .self⟩

@[simp]
theorem within_arr : Within v (.arr items) ↔ v = .arr items ∨ ∃ w ∈ items, Within v w := by
  constructor
  · rintro (_ | ⟨hw, hv⟩ | _)
    · exact .inl rfl
    · exact .inr ⟨_, hw, hv⟩
  · rintro (rfl | ⟨w, hw, hv⟩)
    · exact .self
    · exact .item hw hv

@[simp]
theorem within_obj {fields : Fields} :
    Within v (.obj fields) ↔ v = .obj fields ∨ ∃ f ∈ fields, Within v f.2 := by
  constructor
  · rintro (_ | _ | ⟨hf, hv⟩)
    · exact .inl rfl
    · exact .inr ⟨_, hf, hv⟩
  · rintro (rfl | ⟨f, hf, hv⟩)
    · exact .self
    · exact .field hf hv

/-- Whether the fields of all objects inside a value are in order. -/
def IsCanonical (v : Json) : Prop :=
  ∀ fields : Fields, Within (.obj fields) v → fields.IsSorted

/-- An array is canonical if its items are. -/
theorem isCanonical_arr : (Json.arr items).IsCanonical ↔ ∀ w ∈ items, w.IsCanonical := by
  simp only [IsCanonical, within_arr, reduceCtorEq, false_or]
  exact ⟨fun h w hw fields hf => h fields ⟨w, hw, hf⟩, fun h fields ⟨w, hw, hf⟩ => h w hw fields hf⟩

/-- An object is canonical if its fields are in order and their values are canonical. -/
theorem isCanonical_obj {fields : Fields} :
    (Json.obj fields).IsCanonical ↔ fields.IsSorted ∧ ∀ f ∈ fields, f.2.IsCanonical := by
  simp only [IsCanonical, within_obj, obj.injEq]
  constructor
  · exact fun h => ⟨h fields (.inl rfl), fun f hf gs hgs => h gs (.inr ⟨f, hf, hgs⟩)⟩
  · rintro ⟨hsorted, hvalues⟩ gs (rfl | ⟨f, hf, hgs⟩)
    · exact hsorted
    · exact hvalues f hf gs hgs

/-! ### Values of texts -/

theorem Numeral.isCanonical_of_value? {n : Numeral} {v : Json} (h : n.value? = some v) :
    v.IsCanonical := by
  rw [Numeral.value?] at h
  split at h
  · obtain rfl := Option.some.inj h
    simp [IsCanonical]
  · obtain ⟨x, -, rfl⟩ := Option.map_eq_some_iff.mp h
    simp [IsCanonical]

namespace Tree

mutual

/-- The value of a tree is canonical, however the members of its objects are ordered. -/
theorem isCanonical_of_valueIn? {room : Nat} {v : Json} :
    (t : Tree) → valueIn? room t = some v → v.IsCanonical
  | .null, h => by
    obtain rfl := Option.some.inj h
    simp [IsCanonical]
  | .bool b, h => by
    obtain rfl := Option.some.inj h
    simp [IsCanonical]
  | .numeral n, h => Numeral.isCanonical_of_value? h
  | .text units, h => by
    obtain ⟨s, -, rfl⟩ := Option.map_eq_some_iff.mp h
    simp [IsCanonical]
  | .arr items, h => by
    cases room with
    | zero => cases h
    | succ room =>
      obtain ⟨vs, hvs, rfl⟩ := Option.map_eq_some_iff.mp h
      exact isCanonical_arr.mpr (isCanonical_of_itemValues? items hvs)
  | .obj members, h => by
    cases room with
    | zero => cases h
    | succ room =>
      obtain ⟨fs, hfs, rfl⟩ := Option.map_eq_some_iff.mp h
      exact isCanonical_obj.mpr ⟨Fields.isSorted_ofList fs, fun f hf =>
        isCanonical_of_memberValues? members hfs f (Fields.mem_of_mem_ofList hf)⟩

theorem isCanonical_of_itemValues? {room : Nat} {vs : List Json} :
    (ts : List Tree) → itemValues? room ts = some vs → ∀ w ∈ vs, w.IsCanonical
  | [], h => by
    obtain rfl := Option.some.inj h
    exact fun w hw => absurd hw List.not_mem_nil
  | t :: ts, h => by
    obtain ⟨w, hw, h⟩ := Option.bind_eq_some_iff.mp h
    obtain ⟨ws, hws, h⟩ := Option.bind_eq_some_iff.mp h
    obtain rfl := Option.some.inj h
    exact List.forall_mem_cons.mpr
      ⟨isCanonical_of_valueIn? t hw, isCanonical_of_itemValues? ts hws⟩

theorem isCanonical_of_memberValues? {room : Nat} {fs : List (String × Json)} :
    (ms : List (List Nat × Tree)) → memberValues? room ms = some fs →
      ∀ f ∈ fs, f.2.IsCanonical
  | [], h => by
    obtain rfl := Option.some.inj h
    exact fun f hf => absurd hf List.not_mem_nil
  | (units, t) :: ms, h => by
    obtain ⟨k, -, h⟩ := Option.bind_eq_some_iff.mp h
    obtain ⟨w, hw, h⟩ := Option.bind_eq_some_iff.mp h
    obtain ⟨gs, hgs, h⟩ := Option.bind_eq_some_iff.mp h
    obtain rfl := Option.some.inj h
    exact List.forall_mem_cons.mpr
      ⟨isCanonical_of_valueIn? t hw, isCanonical_of_memberValues? ms hgs⟩

end

end Tree

/-- The value of a text is canonical. -/
theorem isCanonical_of_ofBytes? {bytes : List UInt8} {v : Json} (h : ofBytes? bytes = some v) :
    v.IsCanonical := by
  obtain ⟨t, -, h⟩ := Option.bind_eq_some_iff.mp h
  exact t.isCanonical_of_valueIn? h

end LogIntake.Json
