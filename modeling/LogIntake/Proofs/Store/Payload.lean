import LogIntake.Proofs.Entry.Parts
import LogIntake.Proofs.Json.Fields
import LogIntake.Proofs.Lookup
import LogIntake.Proofs.Time.Written
import LogIntake.Store.Payload

/-!
# Payloads are lossless

The store keeps the fields of a payload in no order, so two payloads are the same
(`Payload.Same`) if their fields are, in any order and at any depth. `Entry.ofPayload?` makes an
entry of a payload again: it takes message and source as they are and the time from the milliseconds
alone, and reads the metadata back value by value (`Payload.toJson`).

This gives the entry that the payload was made of if the payload had room for it
(`Entry.IsStorable`): the store has no place for a part of a millisecond, for a year that has no
four digits, or for an integer that needs more than 64 bits with a sign. Such an integer is stored
as a double, and cannot be told from that double any more (`Payload.ofJson_of_not_fits`).
-/

namespace LogIntake

open Time (Instant)

namespace Payload

/-! ### Reading back -/

mutual

/-- The JSON value that a value in a payload stands for. -/
def toJson : Payload → Json
  | .null => .null
  | .bool b => .bool b
  | .int n => .int n
  | .double x => .float x
  | .text s => .str s
  | .list items => .arr (toItems items)
  | .record fields => .obj (Json.Fields.ofList (toFields fields))

/-- The items of an array that values in a payload stand for. -/
def toItems : List Payload → List Json
  | [] => []
  | p :: ps => toJson p :: toItems ps

/-- The fields of an object that fields of a payload stand for, in the same order. -/
def toFields : List (String × Payload) → List (String × Json)
  | [] => []
  | (k, p) :: fs => (k, toJson p) :: toFields fs

end

theorem toFields_eq_map (fields : List (String × Payload)) :
    toFields fields = fields.map fun f => (f.1, toJson f.2) := by
  induction fields with
  | nil => rfl
  | cons f fs ih => rw [toFields, ih, List.map_cons]

/-! ### Payloads that are the same -/

mutual

/-- Two values in payloads are the same, whatever the order of their fields. -/
inductive Same : Payload → Payload → Prop
  | null : Same .null .null
  | bool (b : Bool) : Same (.bool b) (.bool b)
  | int (n : Int) : Same (.int n) (.int n)
  | double (x : Number.Double) : Same (.double x) (.double x)
  | text (s : String) : Same (.text s) (.text s)
  | list {ps qs : List Payload} : SameItems ps qs → Same (.list ps) (.list qs)
  | record {fs gs hs : List (String × Payload)} :
    fs.Perm gs → SameFields gs hs → Same (.record fs) (.record hs)

/-- Two lists have the same items in the same order. -/
inductive SameItems : List Payload → List Payload → Prop
  | nil : SameItems [] []
  | cons {p q : Payload} {ps qs : List Payload} :
    Same p q → SameItems ps qs → SameItems (p :: ps) (q :: qs)

/-- Two lists have the same fields in the same order. -/
inductive SameFields : List (String × Payload) → List (String × Payload) → Prop
  | nil : SameFields [] []
  | cons {k : String} {p q : Payload} {fs gs : List (String × Payload)} :
    Same p q → SameFields fs gs → SameFields ((k, p) :: fs) ((k, q) :: gs)

end

mutual

/-- A value is the same as itself. -/
theorem Same.refl : (p : Payload) → Same p p
  | .null => .null
  | .bool b => .bool b
  | .int n => .int n
  | .double x => .double x
  | .text s => .text s
  | .list ps => .list (SameItems.refl ps)
  | .record fs => .record (.refl fs) (SameFields.refl fs)

theorem SameItems.refl : (ps : List Payload) → SameItems ps ps
  | [] => .nil
  | p :: ps => .cons (Same.refl p) (SameItems.refl ps)

theorem SameFields.refl : (fs : List (String × Payload)) → SameFields fs fs
  | [] => .nil
  | (_, p) :: fs => .cons (Same.refl p) (SameFields.refl fs)

end

/-! ### Values -/

/-- Whether the integers in a value have 64 bits with a sign. -/
def Fits (v : Json) : Prop :=
  ∀ n, Json.Within (.int n) v → -Number.signed64 ≤ n ∧ n < Number.signed64

theorem Fits.of_mem_arr {items : List Json} (h : Fits (.arr items)) : ∀ w ∈ items, Fits w :=
  fun _ hw n hn => h n (.item hw hn)

theorem Fits.of_mem_obj {fields : Json.Fields} (h : Fits (.obj fields)) :
    ∀ f ∈ fields, Fits f.2 :=
  fun _ hf n hn => h n (.field hf hn)

/-- An integer that does not fit has the payload of a double. -/
theorem ofJson_of_not_fits {n : Int} (h : ¬ Fits (.int n)) :
    ofJson (.int n) = ofJson (.float (.ofInt n)) := by
  rw [ofJson, ofInt, if_neg, ofJson]
  intro hrange
  refine h fun m hm => ?_
  obtain rfl := Json.int.inj (Json.within_int.mp hm)
  exact hrange

mutual

/-- A value that the store has room for is read back, however the store orders its fields. -/
theorem toJson_of_same : (v : Json) → {p : Payload} → Fits v → v.IsCanonical →
    Same p (ofJson v) → toJson p = v
  | .null, _, _, _, h => by
    cases h
    rfl
  | .bool b, _, _, _, h => by
    cases h
    rfl
  | .int n, _, hfits, _, h => by
    rw [ofJson, ofInt, if_pos (hfits n .self)] at h
    cases h
    rfl
  | .float x, _, _, _, h => by
    cases h
    rfl
  | .str s, _, _, _, h => by
    cases h
    rfl
  | .arr items, _, hfits, hcanonical, h => by
    cases h with
    | list hitems =>
      rw [toJson, toItems_of_same items hfits.of_mem_arr (Json.isCanonical_arr.mp hcanonical)
        hitems]
  | .obj fields, _, hfits, hcanonical, h => by
    obtain ⟨hsorted, hvalues⟩ := Json.isCanonical_obj.mp hcanonical
    cases h with
    | record hperm hsame =>
      -- in some order the values are those of the object, and collecting them restores its order
      have hfields := toFields_of_same fields hfits.of_mem_obj hvalues hsame
      have hperm' := hperm.map fun f => (f.1, toJson f.2)
      rw [← toFields_eq_map, ← toFields_eq_map, hfields] at hperm'
      rw [toJson, Json.Fields.ofList_eq_of_perm hperm' hsorted]

theorem toItems_of_same : (vs : List Json) → {ps : List Payload} → (∀ v ∈ vs, Fits v) →
    (∀ v ∈ vs, v.IsCanonical) → SameItems ps (ofItems vs) → toItems ps = vs
  | [], _, _, _, h => by
    cases h
    rfl
  | v :: vs, _, hfits, hcanonical, h => by
    obtain ⟨hfit, hfits⟩ := List.forall_mem_cons.mp hfits
    obtain ⟨hfirst, hcanonical⟩ := List.forall_mem_cons.mp hcanonical
    cases h with
    | cons hv hvs =>
      rw [toItems, toJson_of_same v hfit hfirst hv, toItems_of_same vs hfits hcanonical hvs]

theorem toFields_of_same : (vs : List (String × Json)) → {fs : List (String × Payload)} →
    (∀ f ∈ vs, Fits f.2) → (∀ f ∈ vs, f.2.IsCanonical) → SameFields fs (ofFields vs) →
    toFields fs = vs
  | [], _, _, _, h => by
    cases h
    rfl
  | (k, v) :: vs, _, hfits, hcanonical, h => by
    obtain ⟨hfit, hfits⟩ := List.forall_mem_cons.mp hfits
    obtain ⟨hfirst, hcanonical⟩ := List.forall_mem_cons.mp hcanonical
    cases h with
    | cons hv hvs =>
      rw [toFields, toJson_of_same v hfit hfirst hv, toFields_of_same vs hfits hcanonical hvs]

end

/-! ### Fields -/

theorem SameFields.keys {fs gs : List (String × Payload)} (h : SameFields fs gs) :
    fs.map Prod.fst = gs.map Prod.fst := by
  induction gs generalizing fs with
  | nil =>
    cases h
    rfl
  | cons g gs ih =>
    cases h with
    | cons _ hrest => rw [List.map_cons, List.map_cons, ih hrest]

theorem SameFields.exists_mem {fs gs : List (String × Payload)} {k : String} {q : Payload}
    (h : SameFields fs gs) (hq : (k, q) ∈ gs) : ∃ p, (k, p) ∈ fs ∧ Same p q := by
  induction gs generalizing fs with
  | nil => cases hq
  | cons g gs ih =>
    cases h with
    | cons hp hrest =>
      rcases List.mem_cons.mp hq with heq | hq
      · cases heq
        exact ⟨_, List.mem_cons_self, hp⟩
      · obtain ⟨p, hmem, hp⟩ := ih hrest hq
        exact ⟨p, List.mem_cons_of_mem _ hmem, hp⟩

/-- Under a key of fields that are the same stands a value that is the same. -/
theorem lookup_of_same {fs gs : List (String × Payload)} {k : String} {q : Payload}
    (h : Same (.record fs) (.record gs)) (hnodup : (gs.map Prod.fst).Nodup) (hq : (k, q) ∈ gs) :
    ∃ p, fs.lookup k = some p ∧ Same p q := by
  cases h with
  | record hperm hsame =>
    obtain ⟨p, hp, hpq⟩ := hsame.exists_mem hq
    have hkeys : (fs.map Prod.fst).Nodup := by
      rw [(hperm.map _).nodup_iff, hsame.keys]
      exact hnodup
    exact ⟨p, (lookup_eq_some_iff_mem hkeys).mpr (hperm.mem_iff.mpr hp), hpq⟩

end Payload

/-! ### Entries -/

namespace Entry

/-- The entry that a payload was made of, with the time that its milliseconds say. -/
def ofPayload? (fields : List (String × Payload)) : Option Entry := do
  let message ← (← fields.lookup "message").toJson.text?
  let source ← (← fields.lookup "source").toJson.text?
  let timestamp ← match ← fields.lookup "timestamp_ms" with
    | .int ms => Instant.ofMillis? ms
    | _ => none
  let metadata ← (← fields.lookup "metadata").toJson.fields?
  pure ⟨timestamp, message, source, metadata⟩

/-- What a payload has room for: a time in whole milliseconds in a year of four digits, and metadata
whose integers have 64 bits with a sign. The metadata are in the order of their keys, as those of
every entry that is read are. -/
structure IsStorable (e : Entry) : Prop where
  milli : e.timestamp.IsWholeMilli
  year : 0 ≤ e.timestamp.toCivil.date.year ∧ e.timestamp.toCivil.date.year ≤ 9999
  fits : Payload.Fits (.obj e.metadata)
  canonical : (Json.obj e.metadata).IsCanonical

variable {e : Entry}

/-- What the fields of a payload say, in whatever order the store has them. -/
theorem lookup_ofEntry {fields : List (String × Payload)}
    (h : Payload.Same (.record fields) (.record (Payload.ofEntry e))) :
    fields.lookup "message" = some (.text e.message) ∧
      fields.lookup "source" = some (.text e.source) ∧
      fields.lookup "timestamp_ms" = some (.int e.timestamp.millis) ∧
      ∃ p, fields.lookup "metadata" = some p ∧
        Payload.Same p (Payload.ofJson (.obj e.metadata)) := by
  have hnodup : ((Payload.ofEntry e).map Prod.fst).Nodup := by simp [Payload.ofEntry]
  obtain ⟨_, hmessage, hsame⟩ := Payload.lookup_of_same h hnodup
    (show ("message", Payload.text e.message) ∈ _ by simp [Payload.ofEntry])
  cases hsame
  obtain ⟨_, hsource, hsame⟩ := Payload.lookup_of_same h hnodup
    (show ("source", Payload.text e.source) ∈ _ by simp [Payload.ofEntry])
  cases hsame
  obtain ⟨_, hmillis, hsame⟩ := Payload.lookup_of_same h hnodup
    (show ("timestamp_ms", Payload.int e.timestamp.millis) ∈ _ by simp [Payload.ofEntry])
  cases hsame
  exact ⟨hmessage, hsource, hmillis,
    Payload.lookup_of_same h hnodup (by simp [Payload.ofEntry, Payload.ofJson])⟩

/-- A payload gives back the entry that it was made of. -/
theorem IsStorable.ofPayload? {fields : List (String × Payload)} (he : e.IsStorable)
    (h : Payload.Same (.record fields) (.record (Payload.ofEntry e))) :
    ofPayload? fields = some e := by
  obtain ⟨hmessage, hsource, hmillis, p, hmetadata, hsame⟩ := lookup_ofEntry h
  have hvalue : p.toJson = .obj e.metadata :=
    Payload.toJson_of_same (.obj e.metadata) he.fits he.canonical hsame
  simp only [Entry.ofPayload?, hmessage, hsource, hmillis, hmetadata, hvalue, Payload.toJson,
    Json.text?, Json.fields?, he.milli.ofMillis?_millis, Option.bind_eq_bind, Option.bind_some,
    Option.pure_def]

/-- The time that a payload keeps as a text is read as the time of the entry. -/
theorem IsStorable.timestamp?_rfc3339Millis (he : e.IsStorable) :
    timestamp? (.str e.timestamp.rfc3339Millis) = .ok e.timestamp := by
  obtain ⟨hparts, hmilli⟩ := he.milli.ofParts?
  have hread := Instant.ofRfc3339?_rfc3339Millis hparts hmilli he.year
  rw [timestamp?_str_eq_ok, ofWritten?, Instant.trim_rfc3339Millis he.year, hread]
  rfl

/-- **Payloads are lossless**: from a payload that the store hands out, with its fields in any
order, the entry can be made again, so entries with the same payload are equal. The two times in a
payload are one: the text is read as the instant that the milliseconds count. -/
theorem payload_lossless (he : e.IsStorable) :
    (∀ fields, Payload.Same (.record fields) (.record (Payload.ofEntry e)) →
        ofPayload? fields = some e) ∧
      (∀ e' : Entry, e'.IsStorable →
        Payload.Same (.record (Payload.ofEntry e')) (.record (Payload.ofEntry e)) → e' = e) ∧
      ∃ written ms, (Payload.ofEntry e).lookup "timestamp" = some (.text written) ∧
        (Payload.ofEntry e).lookup "timestamp_ms" = some (.int ms) ∧
        timestamp? (.str written) = .ok e.timestamp ∧
        Instant.ofMillis? ms = some e.timestamp := by
  refine ⟨fun fields => he.ofPayload?, fun e' he' hsame => ?_, _, _, rfl, rfl,
    he.timestamp?_rfc3339Millis, he.milli.ofMillis?_millis⟩
  -- the payload of one entry gives back both of them
  have hown : ofPayload? (Payload.ofEntry e') = some e' := he'.ofPayload? (.refl _)
  exact Option.some.inj (hown.symm.trans (he.ofPayload? hsame))

/-- An entry from before 1970 with metadata of every kind, whose fields come back the other way
round. -/
theorem payload_lossless_reverse :
    let e : Entry :=
      { timestamp := ⟨-1, 500000000⟩, message := "out of memory", source := "prod/api-0"
        metadata := [("labels", .obj [("node", .null), ("tier", .str "web")]),
          ("ports", .arr [.int (-80), .bool true, .float ⟨0x3FE0000000000000⟩])] }
    e.IsStorable ∧ ofPayload? (Payload.ofEntry e).reverse = some e := by
  intro e
  have he : e.IsStorable :=
    { milli := ⟨-500, rfl⟩
      year := by decide
      fits := by
        intro n h
        obtain rfl : n = -80 := by simpa [e] using h
        decide
      canonical := by
        intro fields h
        obtain rfl | rfl : fields = e.metadata ∨
            fields = [("node", .null), ("tier", .str "web")] := by simpa [e] using h
        all_goals decide }
  exact ⟨he, (payload_lossless he).1 _ (.record (List.reverse_perm _) (.refl _))⟩

end Entry

end LogIntake
