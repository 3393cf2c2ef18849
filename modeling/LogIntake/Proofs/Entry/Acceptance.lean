import LogIntake.Proofs.Entry.Parts

/-!
# Which lines are accepted

A line is accepted if it is an object of one of the two shapes. What a shape asks for is said field
by field, by what the fields hold (`IsDirect`, `IsShipped`), and not by how they are looked at: the
first key for the time that is present decides, even if it names none, whereas keys for the source
that cannot be used are passed over.

`Entry.acceptance` says that exactly these lines are accepted, what becomes of the others, and that
keys which belong to no shape do not count.
-/

namespace LogIntake.Entry

open Json (Fields)

variable {v : Option Json} {fields fields' : Fields} {line : Nat}

/-! ### What a field holds -/

/-- A field holds a text in which something is not blank. -/
def HasText (v : Option Json) : Prop :=
  ∃ s, v = some (.str s) ∧ ∃ c ∈ s.toList, Text.isBlank c = false

/-- A field names a time. -/
def HasTime (v : Option Json) : Prop :=
  ∃ w t, v = some w ∧ timestamp? w = .ok t

theorem hasText_iff : HasText v ↔ ∃ s, Holds v s := by
  simp only [HasText, Holds, Text.isBlankText_eq_false_iff]

theorem exists_requiredText_iff : (∃ s, requiredText v = .ok s) ↔ HasText v := by
  simp only [requiredText_eq_ok, hasText_iff]
  rw [exists_comm]
  simp

theorem isSome_nonBlank?_iff : (nonBlank? v).isSome ↔ HasText v := by
  simp only [Option.isSome_iff_exists, nonBlank?_eq_some_iff, hasText_iff]
  rw [exists_comm]
  simp

theorem exists_directMetadata_iff : (∃ m, directMetadata v = .ok m) ↔
    v = none ∨ v = some .null ∨ ∃ m, v = some (.obj m) := by
  rw [directMetadata.eq_def]
  split
  · simp
  · simp
  · simp
  · rename_i w hnull hobj
    refine iff_of_false nofun ?_
    rintro (hw | hw | ⟨m, hw⟩)
    · cases hw
    · exact hnull (Option.some.inj hw)
    · exact hobj m (Option.some.inj hw)

/-! ### The two shapes -/

/-- A direct line: it has a message, whatever it holds, and names the time, the message and the
source; metadata, if there are any, are an object. -/
structure IsDirect (fields : Fields) : Prop where
  marked : fields.get? "message" ≠ none
  time : HasTime (fields.get? "timestamp")
  message : HasText (fields.get? "message")
  source : HasText (fields.get? "source")
  metadata : fields.get? "metadata" = none ∨ fields.get? "metadata" = some .null ∨
    ∃ m, fields.get? "metadata" = some (.obj m)

/-- A shipped line: it has a log in the place of a message, and names the message there, the time
under the first key for it that is present, and the source under any of the keys for it, or else
by its container. -/
structure IsShipped (fields : Fields) : Prop where
  unmarked : fields.get? "message" = none
  marked : fields.get? "log" ≠ none
  time : HasTime (fields.get? "date") ∨
    (fields.get? "date" = none ∧ HasTime (fields.get? "@timestamp")) ∨
    (fields.get? "date" = none ∧ fields.get? "@timestamp" = none ∧ HasTime (fields.get? "time"))
  message : HasText (fields.get? "log")
  source : (HasText (fields.get? "source") ∨ HasText (fields.get? "file") ∨
      HasText (fields.get? "path")) ∨
    ∃ container : Fields, fields.get? "kubernetes" = some (.obj container) ∧
      HasText (container.get? "namespace_name") ∧ HasText (container.get? "pod_name")

theorem exists_ofDirect_iff (hmessage : fields.get? "message" ≠ none) :
    (∃ e, ofDirect line fields = .ok e) ↔ IsDirect fields := by
  simp only [ofDirect_eq_ok]
  constructor
  · rintro ⟨e, w, t, m, s, d, hw, ht, hm, hs, hd, -⟩
    exact ⟨hmessage, ⟨w, t, hw, ht⟩, exists_requiredText_iff.mp ⟨m, hm⟩,
      exists_requiredText_iff.mp ⟨s, hs⟩, exists_directMetadata_iff.mp ⟨d, hd⟩⟩
  · rintro ⟨-, ⟨w, t, hw, ht⟩, htext, hsource, hmetadata⟩
    obtain ⟨m, hm⟩ := exists_requiredText_iff.mpr htext
    obtain ⟨s, hs⟩ := exists_requiredText_iff.mpr hsource
    obtain ⟨d, hd⟩ := exists_directMetadata_iff.mpr hmetadata
    exact ⟨_, w, t, m, s, d, hw, ht, hm, hs, hd, rfl⟩

/-- The first key for the time that is present decides. -/
theorem exists_shippedTime_iff :
    (∃ w t, timeKeys.findSome? fields.get? = some w ∧ timestamp? w = .ok t) ↔
      HasTime (fields.get? "date") ∨
        (fields.get? "date" = none ∧ HasTime (fields.get? "@timestamp")) ∨
        (fields.get? "date" = none ∧ fields.get? "@timestamp" = none ∧
          HasTime (fields.get? "time")) := by
  simp only [timeKeys, List.findSome?_cons, List.findSome?_nil]
  cases fields.get? "date" with
  | some w => simp [HasTime]
  | none =>
    cases fields.get? "@timestamp" with
    | some w => simp [HasTime]
    | none => cases fields.get? "time" <;> simp [HasTime]

theorem isSome_containerSource?_iff {container : Fields} : (containerSource? container).isSome ↔
    HasText (container.get? "namespace_name") ∧ HasText (container.get? "pod_name") := by
  simp only [Option.isSome_iff_exists, containerSource?_eq_some_iff, hasText_iff]
  constructor
  · rintro ⟨_, ⟨hspace, hpod, -⟩ | ⟨hspace, hpod, -⟩⟩ <;> exact ⟨⟨_, hspace⟩, ⟨_, hpod⟩⟩
  · rintro ⟨⟨_, hspace⟩, ⟨_, hpod⟩⟩
    by_cases hname : ∃ name, Holds (container.get? "container_name") name
    · obtain ⟨name, hname⟩ := hname
      exact ⟨_, .container hspace hpod hname⟩
    · exact ⟨_, .pod hspace hpod (not_exists.mp hname)⟩

theorem isSome_shippedSource?_iff : (shippedSource? fields (container? fields)).isSome ↔
      (HasText (fields.get? "source") ∨ HasText (fields.get? "file") ∨
        HasText (fields.get? "path")) ∨
      ∃ container : Fields, fields.get? "kubernetes" = some (.obj container) ∧
        HasText (container.get? "namespace_name") ∧ HasText (container.get? "pod_name") := by
  have hcontainer : ((container? fields).bind containerSource?).isSome ↔
      ∃ container : Fields, fields.get? "kubernetes" = some (.obj container) ∧
        HasText (container.get? "namespace_name") ∧ HasText (container.get? "pod_name") := by
    simp only [← isSome_containerSource?_iff, container?]
    cases fields.get? "kubernetes" with
    | none => simp
    | some w => cases w <;> simp [Json.fields?]
  rw [shippedSource?, Option.orElse_eq_orElse, Option.orElse_eq_or, Option.isSome_or,
    Bool.or_eq_true, hcontainer, sourceKeys, ← isSome_nonBlank?_iff, ← isSome_nonBlank?_iff,
    ← isSome_nonBlank?_iff]
  refine or_congr_left ?_
  simp only [List.findSome?_cons, List.findSome?_nil]
  cases nonBlank? (fields.get? "source") <;> cases nonBlank? (fields.get? "file") <;>
    cases nonBlank? (fields.get? "path") <;> simp

theorem exists_ofShipped_iff (hmessage : fields.get? "message" = none) :
    (∃ e, ofShipped line fields = .ok e) ↔ IsShipped fields := by
  simp only [ofShipped_eq_ok]
  constructor
  · rintro ⟨e, w, t, m, s, hw, ht, hm, hs, -⟩
    have htext : HasText (fields.get? "log") := exists_requiredText_iff.mp ⟨m, hm⟩
    have hlog : fields.get? "log" ≠ none := by
      obtain ⟨s, hs, -⟩ := htext
      simp [hs]
    exact ⟨hmessage, hlog, exists_shippedTime_iff.mp ⟨w, t, hw, ht⟩, htext,
      isSome_shippedSource?_iff.mp (Option.isSome_of_eq_some hs)⟩
  · rintro ⟨-, -, htime, htext, hsource⟩
    obtain ⟨w, t, hw, ht⟩ := exists_shippedTime_iff.mpr htime
    obtain ⟨m, hm⟩ := exists_requiredText_iff.mpr htext
    obtain ⟨s, hs⟩ := Option.isSome_iff_exists.mp (isSome_shippedSource?_iff.mpr hsource)
    exact ⟨_, w, t, m, s, hw, ht, hm, hs, rfl⟩

theorem contains_iff {key : String} : fields.contains key ↔ fields.get? key ≠ none :=
  Option.isSome_iff_ne_none

/-- The objects that are accepted are those of one of the two shapes. -/
theorem exists_ofFields_iff : (∃ e, ofFields line fields = .ok e) ↔
    IsDirect fields ∨ IsShipped fields := by
  by_cases hmessage : fields.get? "message" = none
  · have hnot : ¬ IsDirect fields := fun h => h.marked hmessage
    rw [ofFields, if_neg fun h => contains_iff.mp h hmessage, or_iff_right hnot]
    by_cases hlog : fields.get? "log" = none
    · rw [if_neg fun h => contains_iff.mp h hlog]
      refine iff_of_false ?_ fun h => h.marked hlog
      rintro ⟨e, he⟩
      cases he
    · rw [if_pos (contains_iff.mpr hlog)]
      exact exists_ofShipped_iff hmessage
  · have hnot : ¬ IsShipped fields := fun h => hmessage h.unmarked
    rw [ofFields, if_pos (contains_iff.mpr hmessage), or_iff_left hnot]
    exact exists_ofDirect_iff hmessage

/-! ### Keys that do not count -/

/-- The keys of a direct line. -/
def directKeys : List String := ["message", "timestamp", "source", "metadata"]

/-- The keys of a shipped line, and the one that would make it a direct line. -/
def shippedKeys : List String :=
  ["message", "log", "date", "@timestamp", "time", "source", "file", "path", "kubernetes", "stream"]

/-- The keys that count in an object. -/
def keysThatCount (fields : Fields) : List String :=
  if fields.contains "message" then directKeys else shippedKeys

/-- Two objects have the same under some keys. Under any other key, one of them may have what the
other one lacks. -/
def AgreeOn (keys : List String) (fields fields' : Fields) : Prop :=
  ∀ key ∈ keys, fields.get? key = fields'.get? key

instance (keys : List String) (fields fields' : Fields) :
    Decidable (AgreeOn keys fields fields') :=
  inferInstanceAs (Decidable (∀ key ∈ keys, fields.get? key = fields'.get? key))

theorem ofDirect_congr (h : AgreeOn directKeys fields fields') :
    ofDirect line fields = ofDirect line fields' := by
  simp only [AgreeOn, directKeys, List.forall_mem_cons] at h
  obtain ⟨hmessage, htime, hsource, hmetadata, -⟩ := h
  rw [ofDirect, ofDirect, hmessage, htime, hsource, hmetadata]

theorem ofShipped_congr (h : AgreeOn shippedKeys fields fields') :
    ofShipped line fields = ofShipped line fields' := by
  simp only [AgreeOn, shippedKeys, List.forall_mem_cons] at h
  obtain ⟨-, hlog, hdate, hat, htime, hsource, hfile, hpath, hcontainer, hstream, -⟩ := h
  simp only [ofShipped, shippedTime, timeKeys, shippedSource?, sourceKeys, List.findSome?_cons,
    List.findSome?_nil, hlog, hdate, hat, htime, hsource, hfile, hpath, hcontainer, hstream]

/-- What an object comes to depends on the keys that count in it, and on no other one. -/
theorem ofFields_congr (h : AgreeOn (keysThatCount fields) fields fields') :
    ofFields line fields = ofFields line fields' := by
  have hcontains : ∀ key ∈ keysThatCount fields, fields.contains key = fields'.contains key :=
    fun key hkey => congrArg Option.isSome (h key hkey)
  rw [keysThatCount] at h hcontains
  rw [ofFields, ofFields]
  split at h
  · rename_i hmessage
    rw [if_pos hmessage] at hcontains
    rw [← hcontains "message" (by decide), if_pos hmessage, if_pos hmessage]
    exact ofDirect_congr h
  · rename_i hmessage
    rw [if_neg hmessage] at hcontains
    rw [← hcontains "message" (by decide), ← hcontains "log" (by decide), if_neg hmessage,
      if_neg hmessage, ofShipped_congr h]

/-! ### All lines -/

/-- **Acceptance is exact.** Of the lines that are objects, those of one of the two shapes are
accepted, and the others are invalid; a line that is no object is malformed. Lines that are objects
come to the same if they agree on the keys that count. -/
theorem acceptance (line : Nat) :
    (∀ (bytes : List UInt8) (fields : Fields), Json.ofBytes? bytes = some (.obj fields) →
      ((∃ e, ofLine line bytes = .ok e) ↔ IsDirect fields ∨ IsShipped fields) ∧
      ∀ f, ofLine line bytes = .error f → ∃ detail, f = .invalidRecord line detail) ∧
    (∀ bytes : List UInt8, (∀ fields, Json.ofBytes? bytes ≠ some (.obj fields)) →
      ∃ detail, ofLine line bytes = .error (.malformedLine line detail)) ∧
    ∀ (bytes bytes' : List UInt8) (fields fields' : Fields),
      Json.ofBytes? bytes = some (.obj fields) → Json.ofBytes? bytes' = some (.obj fields') →
      AgreeOn (keysThatCount fields) fields fields' → ofLine line bytes = ofLine line bytes' := by
  refine ⟨fun bytes fields hobj => ?_, fun bytes => ofLine_of_ne_obj line,
    fun bytes bytes' fields fields' hobj hobj' hagree => ?_⟩
  · rw [ofLine_of_obj hobj]
    exact ⟨exists_ofFields_iff, blames_ofFields line fields⟩
  · rw [ofLine_of_obj hobj, ofLine_of_obj hobj']
    exact ofFields_congr hagree

/-- A line that has its source from its container. -/
def containerLine : List UInt8 :=
  Text.Utf8.encode ("\x7b\"log\":\"up\",\"time\":1," ++
    "\"kubernetes\":\x7b\"namespace_name\":\"n\",\"pod_name\":\"p\"\x7d\x7d")

/-- The same line with one more key. -/
def levelLine : List UInt8 :=
  Text.Utf8.encode ("\x7b\"level\":9,\"log\":\"up\",\"time\":1," ++
    "\"kubernetes\":\x7b\"namespace_name\":\"n\",\"pod_name\":\"p\"\x7d\x7d")

/-- Both are accepted, and come to the same. -/
theorem acceptance_container : ∃ fields fields',
    Json.ofBytes? containerLine = some (.obj fields) ∧
    Json.ofBytes? levelLine = some (.obj fields') ∧
    AgreeOn (keysThatCount fields) fields fields' ∧ (∃ e, ofLine 1 containerLine = .ok e) ∧
    ofLine 1 containerLine = ofLine 1 levelLine := by
  have hobj : Json.ofBytes? containerLine = some (.obj [("kubernetes",
      .obj [("namespace_name", .str "n"), ("pod_name", .str "p")]), ("log", .str "up"),
      ("time", .int 1)]) := by decide +kernel
  have hobj' : Json.ofBytes? levelLine = some (.obj [("kubernetes",
      .obj [("namespace_name", .str "n"), ("pod_name", .str "p")]), ("level", .int 9),
      ("log", .str "up"), ("time", .int 1)]) := by decide +kernel
  have htext : ∀ s : String, (s.toList.any fun c => !Text.isBlank c) → HasText (some (.str s)) := by
    intro s hs
    obtain ⟨c, hc, hblank⟩ := List.any_eq_true.mp hs
    exact ⟨s, rfl, c, hc, by simpa using hblank⟩
  refine ⟨_, _, hobj, hobj', by decide, ?_, (acceptance 1).2.2 _ _ _ _ hobj hobj' (by decide)⟩
  refine ((acceptance 1).1 _ _ hobj).1.mpr (.inr ?_)
  exact
    { unmarked := rfl
      marked := by decide
      time := .inr (.inr ⟨rfl, rfl, .int 1, ⟨0, 1000000⟩, rfl, rfl⟩)
      message := htext "up" rfl
      source := .inr ⟨_, rfl, htext "n" rfl, htext "p" rfl⟩ }

end LogIntake.Entry
