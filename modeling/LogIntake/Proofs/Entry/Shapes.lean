import LogIntake.Proofs.Entry.Parts
import LogIntake.Proofs.Json.Fields

/-!
# The two shapes agree

A direct line says in its own words what a shipped line says in those of its shipper: the time is
named by another key, the message by `log`, and the metadata are scattered over the container and
the stream. `IsNormalized` says which metadata those come to, name by name, and not how they are
collected.

`shapes_agree` says that it makes no difference which of the two shapes is used: whatever the time
and the message are, a direct object and a shipped one are accepted together, and then as the same
entry. The source of the shipped object may be its own or its container's.
-/

namespace LogIntake.Entry

open Json (Fields)

variable {container metadata : Fields} {time message stream : Json} {source timeKey : String}
  {line : Nat} {e : Entry}

/-! ### Normalized metadata -/

/-- What a field holds, where null counts as nothing. -/
def present? (v : Option Json) : Option Json :=
  v.filter fun w => !w.isNull

/-- The metadata that a container and a stream come to: each field of the container under the name
that it has there, the stream under its own, and nothing else. -/
structure IsNormalized (container : Fields) (stream : Json) (metadata : Fields) : Prop where
  sorted : metadata.IsSorted
  named : ∀ k ∈ containerKeys, metadata.get? k.2 = present? (container.get? k.1)
  stream : metadata.get? "stream" = present? (some stream)
  others : ∀ key, key ≠ "stream" → (∀ k ∈ containerKeys, key ≠ k.2) → metadata.get? key = none

/-- There is only one way to normalize metadata. -/
theorem IsNormalized.unique {metadata' : Fields} (h : IsNormalized container stream metadata)
    (h' : IsNormalized container stream metadata') : metadata = metadata' := by
  refine h.sorted.ext h'.sorted fun key => ?_
  by_cases hstream : key = "stream"
  · rw [hstream, h.stream, h'.stream]
  by_cases hnamed : ∀ k ∈ containerKeys, key ≠ k.2
  · rw [h.others key hstream hnamed, h'.others key hstream hnamed]
  · obtain ⟨k, hk, rfl⟩ : ∃ k ∈ containerKeys, key = k.2 := by simpa using hnamed
    rw [h.named k hk, h'.named k hk]

theorem isSorted_addPresent {v : Option Json} {key : String} (h : metadata.IsSorted) :
    (addPresent metadata key v).IsSorted := by
  unfold addPresent
  split
  · exact h
  · exact h
  · exact h.insert

theorem get?_addPresent {v : Option Json} {key k : String} :
    (addPresent metadata key v).get? k =
      if k = key then (present? v).or (metadata.get? k) else metadata.get? k := by
  have hnone : present? none = none := rfl
  have hnull : present? (some .null) = none := rfl
  unfold addPresent
  split
  · rw [hnone, Option.none_or, ite_self]
  · rw [hnull, Option.none_or, ite_self]
  · rename_i w hnull
    have hpresent : present? (some w) = some w := by
      cases w with
      | null => exact absurd rfl hnull
      | bool _ | int _ | float _ | str _ | arr _ | obj _ => rfl
    rw [hpresent, Option.some_or, Fields.get?_insert]

/-- The metadata of a shipped line are normalized. -/
theorem isNormalized_shippedMetadata (container : Fields) (stream : Json) :
    IsNormalized container stream (shippedMetadata (some container) (some stream)) where
  sorted := by
    refine isSorted_addPresent ?_
    exact List.foldlRecOn (motive := Fields.IsSorted) containerKeys _ .nil
      fun m hm _ _ => isSorted_addPresent hm
  named := by
    simp only [shippedMetadata, containerKeys, List.foldl_cons, List.foldl_nil, get?_addPresent,
      List.forall_mem_cons]
    simp
  stream := by
    simp [shippedMetadata, containerKeys, get?_addPresent]
  others := by
    intro key hstream hnamed
    simp only [containerKeys, List.forall_mem_cons] at hnamed
    obtain ⟨hpod, hspace, hhost, hname, himage, hlabels, -⟩ := hnamed
    simp [shippedMetadata, containerKeys, get?_addPresent, hstream, hpod, hspace, hhost, hname,
      himage, hlabels]

/-! ### Objects -/

/-- A direct object. -/
def directObject (time message : Json) (source : String) (metadata : Fields) : Fields :=
  .ofList [("timestamp", time), ("message", message), ("source", .str source),
    ("metadata", .obj metadata)]

/-- A shipped object with the time under a key, and with a source under a key of its own or without
one. -/
def shippedObject (timeKey : String) (sourceKey : Option String) (time message : Json)
    (source : String) (container : Fields) (stream : Json) : Fields :=
  .ofList ([(timeKey, time), ("log", message)] ++
    sourceKey.toList.map (fun key => (key, .str source)) ++
    [("kubernetes", .obj container), ("stream", stream)])

/-- What a direct object with a stripped source comes to. -/
theorem ofFields_directObject (hsource : Text.IsStripped source) :
    ofFields line (directObject time message source metadata) = .ok e ↔
      ∃ t text, timestamp? time = .ok t ∧ requiredText (some message) = .ok text ∧
        Entry.ofInstant t text source metadata = e := by
  have htime : (directObject time message source metadata).get? "timestamp" = some time := by
    simp [directObject, Fields.ofList]
  have hmessage : (directObject time message source metadata).get? "message" = some message := by
    simp [directObject, Fields.ofList]
  have hown : (directObject time message source metadata).get? "source" =
      some (.str source) := by
    simp [directObject, Fields.ofList]
  have hmetadata : (directObject time message source metadata).get? "metadata" =
      some (.obj metadata) := by
    simp [directObject, Fields.ofList]
  have hdirect : (directObject time message source metadata).contains "message" = true := by
    rw [Fields.contains, hmessage, Option.isSome_some]
  rw [ofFields, if_pos hdirect, ofDirect_eq_ok, htime, hmessage, hown, hmetadata,
    requiredText_of_isStripped hsource]
  simp [directMetadata]

/-- What stands in a shipped object. -/
theorem get?_shippedObject (time message : Json) (source : String) (container : Fields)
    (stream : Json) {sourceKey : Option String} (htimeKey : timeKey ∈ timeKeys)
    (hsourceKey : ∀ key ∈ sourceKey, key ∈ sourceKeys) :
    let fields := shippedObject timeKey sourceKey time message source container stream
    fields.get? "message" = none ∧ fields.get? "log" = some message ∧
      timeKeys.findSome? fields.get? = some time ∧
      fields.get? "kubernetes" = some (.obj container) ∧ fields.get? "stream" = some stream ∧
      ∀ key ∈ sourceKeys,
        fields.get? key = if sourceKey = some key then some (.str source) else none := by
  simp only [timeKeys, List.mem_cons, List.not_mem_nil, or_false] at htimeKey
  cases sourceKey with
  | none =>
    rcases htimeKey with rfl | rfl | rfl <;>
      simp [shippedObject, Fields.ofList, timeKeys, sourceKeys]
  | some key =>
    have hkey : key ∈ sourceKeys := hsourceKey key rfl
    simp only [sourceKeys, List.mem_cons, List.not_mem_nil, or_false] at hkey
    rcases htimeKey with rfl | rfl | rfl <;> rcases hkey with rfl | rfl | rfl <;>
      simp [shippedObject, Fields.ofList, timeKeys, sourceKeys]

/-- A trimmed source under a key for the source counts. -/
theorem shippedSource?_own {fields : Fields} {sourceKey : String} (hkey : sourceKey ∈ sourceKeys)
    (hget : ∀ key ∈ sourceKeys,
      fields.get? key = if some sourceKey = some key then some (.str source) else none)
    (hsource : Text.IsTrimmed source) (container : Option Fields) :
    shippedSource? fields container = some source := by
  have hholds : Holds (some (.str source)) source := ⟨rfl, hsource.isStripped.isBlankText_eq_false⟩
  have hown : nonBlank? (some (.str source)) = some source :=
    nonBlank?_eq_some_iff.mpr ⟨source, hholds, hsource.trim_eq⟩
  have hfirst : (sourceKeys.findSome? fun key => nonBlank? (fields.get? key)) = some source := by
    have hnone : nonBlank? none = none := rfl
    simp only [sourceKeys, List.forall_mem_cons] at hget
    obtain ⟨hsource, hfile, hpath, -⟩ := hget
    simp only [sourceKeys, List.mem_cons, List.not_mem_nil, or_false] at hkey
    simp only [sourceKeys, List.findSome?_cons, List.findSome?_nil, hsource, hfile, hpath]
    rcases hkey with rfl | rfl | rfl <;> simp [hown, hnone]
  rw [shippedSource?, hfirst]
  rfl

/-- Without a source of its own, a shipped line has that of its container. -/
theorem shippedSource?_container {fields : Fields}
    (hget : ∀ key ∈ sourceKeys, fields.get? key = none) (hsource : NamesSource container source) :
    shippedSource? fields (some container) = some source := by
  have hfirst : (sourceKeys.findSome? fun key => nonBlank? (fields.get? key)) = none := by
    rw [List.findSome?_eq_none_iff]
    intro key hkey
    rw [hget key hkey]
    rfl
  rw [shippedSource?, hfirst, Option.bind_some, containerSource?_eq_some_iff.mpr hsource]
  rfl

/-- What a shipped object comes to, wherever its source comes from. -/
theorem ofFields_shippedObject {sourceKey : Option String} (htimeKey : timeKey ∈ timeKeys)
    (hsourceKey : ∀ key ∈ sourceKey, key ∈ sourceKeys)
    (hown : sourceKey ≠ none → Text.IsTrimmed source)
    (hcontainer : sourceKey = none → NamesSource container source) :
    ofFields line (shippedObject timeKey sourceKey time message source container stream) = .ok e ↔
      ∃ t text, timestamp? time = .ok t ∧ requiredText (some message) = .ok text ∧
        Entry.ofInstant t text source (shippedMetadata (some container) (some stream)) = e := by
  obtain ⟨hmessage, hlog, htime, hkubernetes, hstream, hget⟩ :=
    get?_shippedObject time message source container stream htimeKey hsourceKey
  generalize shippedObject timeKey sourceKey time message source container stream = fields at *
  have hsource : shippedSource? fields (some container) = some source := by
    cases sourceKey with
    | none => exact shippedSource?_container (by simpa using hget) (hcontainer rfl)
    | some key => exact shippedSource?_own (hsourceKey key rfl) hget (hown nofun) _
  have hdirect : fields.contains "message" = false := by
    rw [Fields.contains, hmessage, Option.isSome_none]
  have hshipped : fields.contains "log" = true := by rw [Fields.contains, hlog, Option.isSome_some]
  have hfields : container? fields = some container := by
    rw [container?, hkubernetes]
    rfl
  rw [ofFields, if_neg (Bool.eq_false_iff.mp hdirect), if_pos hshipped, ofShipped_eq_ok, htime,
    hlog, hfields, hsource, hstream]
  simp

/-! ### Agreement -/

/-- Two objects are accepted together, and then as the same entry, whatever the numbers of their
lines are and however they are written. -/
structure Agree (fields fields' : Fields) : Prop where
  objects : ∀ line line' e, ofJson line (.obj fields) = .ok e ↔ ofJson line' (.obj fields') = .ok e
  lines : ∀ bytes bytes', Json.ofBytes? bytes = some (.obj fields) →
    Json.ofBytes? bytes' = some (.obj fields') →
    ∀ line line' e, ofLine line bytes = .ok e ↔ ofLine line' bytes' = .ok e

theorem agree_of_ofFields {fields fields' : Fields}
    (h : ∀ line line' e, ofFields line fields = .ok e ↔ ofFields line' fields' = .ok e) :
    Agree fields fields' where
  objects := h
  lines := by
    intro bytes bytes' hfields hfields' line line' e
    rw [ofLine_of_obj hfields, ofLine_of_obj hfields']
    exact h line line' e

/-- **Both shapes agree**: an object in its own words and one in those of a shipper are accepted
together, and as the same entry, if the metadata of the one are what the container and the stream of
the other come to. The source may stand under any of its keys, or be left to the container. -/
theorem shapes_agree (time message stream : Json) (source : String) (container metadata : Fields)
    (hmetadata : IsNormalized container stream metadata) :
    ∀ timeKey ∈ timeKeys,
      (Text.IsTrimmed source → ∀ sourceKey ∈ sourceKeys,
        Agree (directObject time message source metadata)
          (shippedObject timeKey (some sourceKey) time message source container stream)) ∧
      (NamesSource container source →
        Agree (directObject time message source metadata)
          (shippedObject timeKey none time message source container stream)) := by
  obtain rfl := hmetadata.unique (isNormalized_shippedMetadata container stream)
  intro timeKey htimeKey
  constructor
  · intro hsource sourceKey hsourceKey
    refine agree_of_ofFields fun line line' e => ?_
    rw [ofFields_directObject hsource.isStripped, ofFields_shippedObject htimeKey
      (fun key hkey => Option.some.inj hkey ▸ hsourceKey) (fun _ => hsource) nofun]
  · intro hsource
    refine agree_of_ofFields fun line line' e => ?_
    rw [ofFields_directObject hsource.isTrimmed.isStripped,
      ofFields_shippedObject htimeKey (fun _ hkey => absurd hkey (Option.not_mem_none _))
        (fun hne => absurd rfl hne) fun _ => hsource]

/-- A container with blanks around its names, and with a host that is null. -/
def paddedContainer : Fields :=
  [("container_name", .str " api "), ("host", .null), ("labels", .obj [("app", .str "api")]),
    ("namespace_name", .str "prod"), ("pod_name", .str "api-0\n")]

/-- The metadata that it comes to, with a stream. -/
def paddedMetadata : Fields :=
  [("container", .str " api "), ("labels", .obj [("app", .str "api")]), ("namespace", .str "prod"),
    ("pod", .str "api-0\n"), ("stream", .str "stderr")]

/-- Its source is the same as one that the line has itself, and all three objects are accepted. -/
theorem shapes_agree_padded :
    IsNormalized paddedContainer (.str "stderr") paddedMetadata ∧
    Text.IsTrimmed "prod/api-0/api" ∧ NamesSource paddedContainer "prod/api-0/api" ∧
    Agree (directObject (.int 1) (.str "up\n") "prod/api-0/api" paddedMetadata)
      (shippedObject "@timestamp" (some "path") (.int 1) (.str "up\n") "prod/api-0/api"
        paddedContainer (.str "stderr")) ∧
    Agree (directObject (.int 1) (.str "up\n") "prod/api-0/api" paddedMetadata)
      (shippedObject "date" none (.int 1) (.str "up\n") "prod/api-0/api" paddedContainer
        (.str "stderr")) ∧
    ofJson 1 (.obj (directObject (.int 1) (.str "up\n") "prod/api-0/api" paddedMetadata)) =
      .ok ⟨⟨0, 1000000⟩, "up", "prod/api-0/api", paddedMetadata⟩ := by
  have hmetadata : IsNormalized paddedContainer (.str "stderr") paddedMetadata :=
    isNormalized_shippedMetadata paddedContainer (.str "stderr")
  have hsource : NamesSource paddedContainer "prod/api-0/api" :=
    @NamesSource.container _ "prod" "api-0\n" " api " ⟨rfl, rfl⟩ ⟨rfl, rfl⟩ ⟨rfl, rfl⟩
  have hagree := shapes_agree (.int 1) (.str "up\n") (.str "stderr") "prod/api-0/api"
    paddedContainer paddedMetadata hmetadata
  exact ⟨hmetadata, hsource.isTrimmed, hsource,
    (hagree "@timestamp" (by decide)).1 hsource.isTrimmed "path" (by decide),
    (hagree "date" (by decide)).2 hsource, by decide +kernel⟩

end LogIntake.Entry
