import LogIntake.Entry.Document
import LogIntake.Proofs.Entry.Parts
import LogIntake.Proofs.Json.Fields
import LogIntake.Proofs.Lookup

/-!
# The order of metadata

The metadata of an entry are fields of an object. They are in the order of their keys, and so are
the fields of the objects inside them, whether the entry was read from a line
(`isCanonical_of_ofLine`) or from a document (`isCanonical_of_ofDocument?`): what a container says
is inserted key by key, and what is taken over whole is the value of a text.
-/

namespace LogIntake.Entry

open Json (Fields)

variable {fields metadata : Fields} {v : Option Json} {line : Nat} {e : Entry}

theorem isCanonical_nil : (Json.obj []).IsCanonical :=
  Json.isCanonical_obj.mpr ⟨.nil, fun _ h => absurd h List.not_mem_nil⟩

theorem isCanonical_of_get? {key : String} {w : Json} (h : (Json.obj fields).IsCanonical)
    (hw : fields.get? key = some w) : w.IsCanonical :=
  (Json.isCanonical_obj.mp h).2 _ (mem_of_lookup hw)

theorem isCanonical_of_fields? {w : Json} (h : w.IsCanonical) (hw : w.fields? = some fields) :
    (Json.obj fields).IsCanonical := by
  cases w with
  | obj gs => exact Option.some.inj hw ▸ h
  | _ => cases hw

/-! ### Lines -/

/-- A canonical value that is added leaves metadata canonical. -/
theorem isCanonical_addPresent {key : String} (h : (Json.obj metadata).IsCanonical)
    (hv : ∀ w ∈ v, w.IsCanonical) : (Json.obj (addPresent metadata key v)).IsCanonical := by
  unfold addPresent
  split
  · exact h
  · exact h
  · obtain ⟨hsorted, hvalues⟩ := Json.isCanonical_obj.mp h
    refine Json.isCanonical_obj.mpr ⟨hsorted.insert, fun f hf => ?_⟩
    rcases Fields.eq_or_mem_of_mem_insert hf with rfl | hf
    · exact hv _ rfl
    · exact hvalues f hf

theorem isCanonical_shippedMetadata {container : Option Fields}
    (hcontainer : ∀ c ∈ container, (Json.obj c).IsCanonical) (hv : ∀ w ∈ v, w.IsCanonical) :
    (Json.obj (shippedMetadata container v)).IsCanonical := by
  refine isCanonical_addPresent ?_ hv
  cases container with
  | none => exact isCanonical_nil
  | some c =>
    -- what the keys before one have left is canonical, and so is the value of the key
    refine List.foldlRecOn (motive := fun m => (Json.obj m).IsCanonical) containerKeys _
      isCanonical_nil fun m hm k _ => ?_
    exact isCanonical_addPresent hm fun w hw => isCanonical_of_get? (hcontainer c rfl) hw

theorem isCanonical_of_directMetadata (hv : ∀ w ∈ v, w.IsCanonical)
    (h : directMetadata v = .ok metadata) : (Json.obj metadata).IsCanonical := by
  unfold directMetadata at h
  split at h
  · exact Except.ok.inj h ▸ isCanonical_nil
  · exact Except.ok.inj h ▸ isCanonical_nil
  · exact Except.ok.inj h ▸ hv _ rfl
  · cases h

theorem isCanonical_of_ofFields (hfields : (Json.obj fields).IsCanonical)
    (h : ofFields line fields = .ok e) : (Json.obj e.metadata).IsCanonical := by
  have hget : ∀ key, ∀ w ∈ fields.get? key, w.IsCanonical := fun key w hw =>
    isCanonical_of_get? hfields hw
  rcases ofFields_eq_ok.mp h with ⟨-, h⟩ | ⟨-, -, h⟩
  · obtain ⟨_, _, _, _, _, -, -, -, -, hmetadata, rfl⟩ := ofDirect_eq_ok.mp h
    exact isCanonical_of_directMetadata (hget "metadata") hmetadata
  · obtain ⟨_, _, _, _, -, -, -, -, rfl⟩ := ofShipped_eq_ok.mp h
    refine isCanonical_shippedMetadata (fun c hc => ?_) (hget "stream")
    obtain ⟨w, hw, hc⟩ := Option.bind_eq_some_iff.mp hc
    exact isCanonical_of_fields? (hget "kubernetes" w hw) hc

/-- The metadata of the entry of a line are in order at every depth. -/
theorem isCanonical_of_ofLine {bytes : List UInt8} (h : ofLine line bytes = .ok e) :
    (Json.obj e.metadata).IsCanonical := by
  obtain ⟨fields, hfields⟩ := exists_fields_of_ofLine h
  rw [ofLine_of_obj hfields] at h
  exact isCanonical_of_ofFields (Json.isCanonical_of_ofBytes? hfields) h

/-! ### Documents -/

theorem isCanonical_of_treeMetadata? {t : Json.Tree} (h : treeMetadata? t = some metadata) :
    (Json.obj metadata).IsCanonical := by
  obtain ⟨v, hv, h⟩ := Option.bind_eq_some_iff.mp h
  exact isCanonical_of_fields? (t.isCanonical_of_valueIn? hv) h

/-- The metadata of the entry of a document are in order at every depth. -/
theorem isCanonical_of_ofDocument? {t : Json.Tree} (h : ofDocument? t = some e) :
    (Json.obj e.metadata).IsCanonical := by
  unfold ofDocument? at h
  split at h
  · simp only [Option.bind_eq_bind, Option.bind_eq_some_iff] at h
    obtain ⟨_, -, _, -, _, -, _, -, _, -, _, -, found, -, h⟩ := h
    split at h
    · obtain rfl := Option.some.inj h
      exact isCanonical_nil
    · obtain ⟨metadata, hmetadata, h⟩ := Option.bind_eq_some_iff.mp h
      obtain rfl := Option.some.inj h
      exact isCanonical_of_treeMetadata? hmetadata
    · cases h
  · simp only [Option.bind_eq_bind, Option.bind_eq_some_iff] at h
    obtain ⟨_, -, _, -, _, -, h⟩ := h
    obtain rfl := Option.some.inj h
    exact isCanonical_nil
  · simp only [Option.bind_eq_bind, Option.bind_eq_some_iff] at h
    obtain ⟨_, -, _, -, _, -, metadata, hmetadata, h⟩ := h
    obtain rfl := Option.some.inj h
    exact isCanonical_of_treeMetadata? hmetadata
  · cases h

end LogIntake.Entry
