import LogIntake.Proofs.Config.Variables
import LogIntake.Proofs.Entry.Lines

/-!
# The parts of an entry

What an accepted line comes to is put together from parts: a time, a message, a source and metadata.
Each part is read from fields of its own, so the entry of a line is known when its parts are
(`ofDirect_eq_ok`, `ofShipped_eq_ok`). The time has one value in each shape (`timeValue?`), and the
timestamp of the entry is what that value names, cut down to a millisecond (`exists_time`).

A message is **stripped**, and so is the source of a direct line; the source of a shipped line is
even **trimmed**, whether it is the line's own or the one that its container names
(`NamesSource`).
-/

namespace LogIntake.Entry

open Config (bind_eq_ok)
open Json (Fields)

variable {fields : Fields} {line : Nat} {e : Entry}

/-! ### Texts -/

/-- A field holds a text in which something is not blank. -/
def Holds (v : Option Json) (s : String) : Prop :=
  v = some (.str s) ∧ Text.isBlankText s = false

theorem requiredText_eq_ok {v : Option Json} {s : String} :
    requiredText v = .ok s ↔ ∃ raw, Holds v raw ∧ Text.trimLineEnd raw = s := by
  rw [requiredText.eq_def]
  split
  · simp [Holds]
  · simp [Holds]
  · rename_i raw
    simp only [Text.isBlankText_trimLineEnd]
    cases hblank : Text.isBlankText raw <;> simp [Holds, hblank]
  · rename_i hstr
    refine iff_of_false nofun ?_
    rintro ⟨raw, ⟨hraw, -⟩, -⟩
    exact hstr raw (Option.some.inj hraw)

theorem isStripped_of_requiredText {v : Option Json} {s : String} (h : requiredText v = .ok s) :
    Text.IsStripped s := by
  obtain ⟨raw, hraw, rfl⟩ := requiredText_eq_ok.mp h
  exact Text.isStripped_trimLineEnd hraw.2

/-- A stripped text is left as it is. -/
theorem requiredText_of_isStripped {s : String} (h : Text.IsStripped s) :
    requiredText (some (.str s)) = .ok s :=
  requiredText_eq_ok.mpr ⟨s, ⟨rfl, h.isBlankText_eq_false⟩, h.trimLineEnd_eq⟩

theorem nonBlank?_eq_some_iff {v : Option Json} {s : String} :
    nonBlank? v = some s ↔ ∃ raw, Holds v raw ∧ Text.trim raw = s := by
  rw [nonBlank?]
  split
  · rename_i raw htext
    obtain ⟨w, rfl, hw⟩ := Option.bind_eq_some_iff.mp htext
    cases w with
    | str raw =>
      obtain rfl := Option.some.inj hw
      cases hblank : Text.isBlankText raw <;> simp [Holds, hblank]
    | null | bool _ | int _ | float _ | arr _ | obj _ => cases hw
  · rename_i hnone
    refine iff_of_false nofun ?_
    rintro ⟨raw, ⟨rfl, -⟩, -⟩
    cases hnone

theorem nonBlank?_eq_none_iff {v : Option Json} : nonBlank? v = none ↔ ∀ raw, ¬ Holds v raw := by
  rw [Option.eq_none_iff_forall_ne_some]
  constructor
  · exact fun h raw hraw => h _ (nonBlank?_eq_some_iff.mpr ⟨raw, hraw, rfl⟩)
  · intro h s hs
    obtain ⟨raw, hraw, -⟩ := nonBlank?_eq_some_iff.mp hs
    exact h raw hraw

theorem isTrimmed_of_nonBlank? {v : Option Json} {s : String} (h : nonBlank? v = some s) :
    Text.IsTrimmed s := by
  obtain ⟨raw, hraw, rfl⟩ := nonBlank?_eq_some_iff.mp h
  exact Text.isTrimmed_trim hraw.2

/-! ### Times -/

section Times

variable {t : Time.Instant}

-- by cases on what the readers give: the equations of the match on values are slow to come by

theorem timestamp?_int_eq_ok {n : Int} :
    timestamp? (.int n) = .ok t ↔ n < Number.signed64 ∧ Time.Instant.ofMillis? n = some t := by
  delta timestamp?
  dsimp only
  by_cases hbound : n < Number.signed64
  · rw [if_pos hbound, and_iff_right hbound]
    cases Time.Instant.ofMillis? n <;> simp
  · rw [if_neg hbound]
    exact iff_of_false nofun fun h => hbound h.1

theorem timestamp?_float_eq_ok {x : Number.Double} :
    timestamp? (.float x) = .ok t ↔ ofSeconds? x = some t := by
  delta timestamp?
  dsimp only
  cases ofSeconds? x <;> simp

theorem timestamp?_str_eq_ok {s : String} :
    timestamp? (.str s) = .ok t ↔ ofWritten? s = some t := by
  delta timestamp?
  dsimp only
  cases ofWritten? s <;> simp

end Times

/-! ### Direct lines -/

theorem directTime_eq_ok {v : Option Json} {t : Time.Instant} :
    directTime v = .ok t ↔ ∃ w, v = some w ∧ timestamp? w = .ok t := by
  cases v <;> simp [directTime]

/-- The parts of a direct line. -/
theorem ofDirect_eq_ok : ofDirect line fields = .ok e ↔ ∃ v t message source metadata,
    fields.get? "timestamp" = some v ∧ timestamp? v = .ok t ∧
      requiredText (fields.get? "message") = .ok message ∧
      requiredText (fields.get? "source") = .ok source ∧
      directMetadata (fields.get? "metadata") = .ok metadata ∧
      Entry.ofInstant t message source metadata = e := by
  simp only [ofDirect, bind_eq_ok, blame_eq_ok, directTime_eq_ok]
  constructor
  · rintro ⟨t, ⟨v, hv, ht⟩, message, hmessage, source, hsource, metadata, hmetadata, ⟨⟩⟩
    exact ⟨v, t, message, source, metadata, hv, ht, hmessage, hsource, hmetadata, rfl⟩
  · rintro ⟨v, t, message, source, metadata, hv, ht, hmessage, hsource, hmetadata, rfl⟩
    exact ⟨t, ⟨v, hv, ht⟩, message, hmessage, source, hsource, metadata, hmetadata, rfl⟩

/-! ### Shipped lines -/

/-- The container of a shipped line, if there is one. -/
def container? (fields : Fields) : Option Fields :=
  (fields.get? "kubernetes").bind Json.fields?

/-- The source that a container names: its namespace and its pod, and its own name if it has one,
all three trimmed, with slashes between them. -/
inductive NamesSource (container : Fields) : String → Prop
  | pod {space pod : String} :
    Holds (container.get? "namespace_name") space → Holds (container.get? "pod_name") pod →
    (∀ name, ¬ Holds (container.get? "container_name") name) →
    NamesSource container ("/".intercalate [Text.trim space, Text.trim pod])
  | container {space pod name : String} :
    Holds (container.get? "namespace_name") space → Holds (container.get? "pod_name") pod →
    Holds (container.get? "container_name") name →
    NamesSource container ("/".intercalate [Text.trim space, Text.trim pod, Text.trim name])

theorem containerSource?_eq_some_iff {container : Fields} {source : String} :
    containerSource? container = some source ↔ NamesSource container source := by
  simp only [containerSource?, Option.bind_eq_bind, Option.bind_eq_some_iff]
  constructor
  · rintro ⟨_, hs, _, hp, h⟩
    obtain ⟨space, hspace, rfl⟩ := nonBlank?_eq_some_iff.mp hs
    obtain ⟨pod, hpod, rfl⟩ := nonBlank?_eq_some_iff.mp hp
    split at h
    · rename_i hn
      obtain ⟨name, hname, rfl⟩ := nonBlank?_eq_some_iff.mp hn
      obtain rfl := Option.some.inj h
      exact .container hspace hpod hname
    · rename_i hname
      obtain rfl := Option.some.inj h
      exact .pod hspace hpod (nonBlank?_eq_none_iff.mp hname)
  · rintro (⟨hspace, hpod, hname⟩ | ⟨hspace, hpod, hname⟩)
    · refine ⟨_, nonBlank?_eq_some_iff.mpr ⟨_, hspace, rfl⟩, _,
        nonBlank?_eq_some_iff.mpr ⟨_, hpod, rfl⟩, ?_⟩
      rw [nonBlank?_eq_none_iff.mpr hname]
      rfl
    · refine ⟨_, nonBlank?_eq_some_iff.mpr ⟨_, hspace, rfl⟩, _,
        nonBlank?_eq_some_iff.mpr ⟨_, hpod, rfl⟩, ?_⟩
      rw [nonBlank?_eq_some_iff.mpr ⟨_, hname, rfl⟩]
      rfl

theorem NamesSource.isTrimmed {container : Fields} {source : String}
    (h : NamesSource container source) : Text.IsTrimmed source := by
  cases h with
  | pod hspace hpod =>
    exact (Text.isTrimmed_trim hspace.2).append (Text.isTrimmed_trim hpod.2) "/"
  | container hspace hpod hname =>
    exact ((Text.isTrimmed_trim hspace.2).append (Text.isTrimmed_trim hpod.2) "/").append
      (Text.isTrimmed_trim hname.2) "/"

/-- The source of a shipped line is trimmed, wherever it comes from. -/
theorem isTrimmed_of_shippedSource? {container : Option Fields} {source : String}
    (h : shippedSource? fields container = some source) : Text.IsTrimmed source := by
  rw [shippedSource?, Option.orElse_eq_orElse, Option.orElse_eq_or, Option.or_eq_some_iff] at h
  rcases h with h | ⟨-, h⟩
  · obtain ⟨key, -, hkey⟩ := List.exists_of_findSome?_eq_some h
    exact isTrimmed_of_nonBlank? hkey
  · obtain ⟨c, -, hc⟩ := Option.bind_eq_some_iff.mp h
    exact (containerSource?_eq_some_iff.mp hc).isTrimmed

/-- The first key for the time that is present decides. -/
theorem shippedTime_eq_ok {t : Time.Instant} : shippedTime line fields = .ok t ↔
    ∃ v, timeKeys.findSome? fields.get? = some v ∧ timestamp? v = .ok t := by
  have hfirst : timeKeys.findSome? fields.get? =
      (timeKeys.findSome? fun k => (fields.get? k).map (k, ·)).map Prod.snd := by
    simp only [timeKeys, List.findSome?_cons, List.findSome?_nil]
    cases fields.get? "date" <;> cases fields.get? "@timestamp" <;> cases fields.get? "time" <;> rfl
  rw [shippedTime, hfirst]
  split
  · rename_i hnone
    simp [hnone, blame]
  · rename_i key v hsome
    simp [hsome, blame_eq_ok]

/-- The parts of a shipped line. -/
theorem ofShipped_eq_ok : ofShipped line fields = .ok e ↔ ∃ v t message source,
    timeKeys.findSome? fields.get? = some v ∧ timestamp? v = .ok t ∧
      requiredText (fields.get? "log") = .ok message ∧
      shippedSource? fields (container? fields) = some source ∧
      Entry.ofInstant t message source
        (shippedMetadata (container? fields) (fields.get? "stream")) = e := by
  simp only [ofShipped, container?, bind_eq_ok, blame_eq_ok, shippedTime_eq_ok]
  constructor
  · rintro ⟨t, ⟨v, hv, ht⟩, message, hmessage, h⟩
    split at h
    · rename_i source hsource
      exact ⟨v, t, message, source, hv, ht, hmessage, hsource, Except.ok.inj h⟩
    · cases h
  · rintro ⟨v, t, message, source, hv, ht, hmessage, hsource, rfl⟩
    exact ⟨t, ⟨v, hv, ht⟩, message, hmessage, by rw [hsource]; rfl⟩

/-! ### All lines -/

/-- The value that is to name the time of a line. -/
def timeValue? (fields : Fields) : Option Json :=
  if fields.contains "message" then fields.get? "timestamp"
  else timeKeys.findSome? fields.get?

/-- A line that is accepted has one of the two shapes. -/
theorem ofFields_eq_ok : ofFields line fields = .ok e ↔
    (fields.contains "message" = true ∧ ofDirect line fields = .ok e) ∨
      (fields.contains "message" = false ∧ fields.contains "log" = true ∧
        ofShipped line fields = .ok e) := by
  rw [ofFields]
  cases fields.contains "message" <;> cases fields.contains "log" <;> simp [blame]

/-- The time of an entry is the time that its line names, cut down to a millisecond. -/
theorem exists_time (h : ofFields line fields = .ok e) :
    ∃ v t, timeValue? fields = some v ∧ timestamp? v = .ok t ∧ e.timestamp = t.truncate := by
  rw [timeValue?]
  rcases ofFields_eq_ok.mp h with ⟨hmessage, h⟩ | ⟨hmessage, -, h⟩
  · obtain ⟨v, t, _, _, _, hv, ht, -, -, -, rfl⟩ := ofDirect_eq_ok.mp h
    exact ⟨v, t, by rw [if_pos hmessage, hv], ht, rfl⟩
  · obtain ⟨v, t, _, _, hv, ht, -, -, rfl⟩ := ofShipped_eq_ok.mp h
    exact ⟨v, t, by rw [if_neg (Bool.eq_false_iff.mp hmessage), hv], ht, rfl⟩

end LogIntake.Entry
