import LogIntake.Proofs.Embedding.Attempts
import LogIntake.Proofs.Entry.Shapes
import LogIntake.Proofs.Time.Instant

/-!
# Entries are normal forms

The entry of a line is **normal**: its message and its source are stripped, and its time is a whole
millisecond unless it lies behind the last one (`IsNormal`). So a client does not refuse the message
as blank, but puts it to the provider. And written as a direct object, with the time as a count of
milliseconds (`toObject`), a normal entry is read as itself (`IsNormal.ofJson_toObject`): reading
what was read changes nothing.
-/

namespace LogIntake.Entry

open Json (Fields)
open Time (Instant)

variable {fields : Fields} {line : Nat} {bytes : List UInt8} {e : Entry}

/-! ### Normal entries -/

/-- An entry that reading leaves as it is. -/
structure IsNormal (e : Entry) : Prop where
  message : Text.IsStripped e.message
  source : Text.IsStripped e.source
  time : Instant.minMillis ≤ e.timestamp.millis → e.timestamp.millis ≤ Instant.maxMillis →
    e.timestamp.IsWholeMilli

theorem isNormal_ofInstant {t : Instant} {message source : String} {metadata : Fields}
    (hmessage : Text.IsStripped message) (hsource : Text.IsStripped source) :
    (Entry.ofInstant t message source metadata).IsNormal :=
  ⟨hmessage, hsource, Instant.isWholeMilli_truncate_of_le⟩

theorem isNormal_of_ofFields (h : ofFields line fields = .ok e) : e.IsNormal := by
  rcases ofFields_eq_ok.mp h with ⟨-, h⟩ | ⟨-, -, h⟩
  · obtain ⟨_, _, _, _, _, -, -, hmessage, hsource, -, rfl⟩ := ofDirect_eq_ok.mp h
    exact isNormal_ofInstant (isStripped_of_requiredText hmessage)
      (isStripped_of_requiredText hsource)
  · obtain ⟨_, _, _, _, -, -, hmessage, hsource, rfl⟩ := ofShipped_eq_ok.mp h
    exact isNormal_ofInstant (isStripped_of_requiredText hmessage)
      (isTrimmed_of_shippedSource? hsource).isStripped

/-- Every entry of a line is normal. -/
theorem isNormal_of_ofLine (h : ofLine line bytes = .ok e) : e.IsNormal := by
  obtain ⟨fields, hfields⟩ := exists_fields_of_ofLine h
  rw [ofLine_of_obj hfields] at h
  exact isNormal_of_ofFields h

/-! ### Written as an object -/

/-- An entry as a direct object. -/
def toObject (e : Entry) : Fields :=
  directObject (.int e.timestamp.millis) (.str e.message) e.source e.metadata

/-- A normal entry in the supported range is read as itself. -/
theorem IsNormal.ofFields_toObject (h : e.IsNormal)
    (hlow : Instant.minMillis ≤ e.timestamp.millis)
    (hhigh : e.timestamp.millis ≤ Instant.maxMillis) : ofFields line e.toObject = .ok e := by
  have hwhole := h.time hlow hhigh
  have htime : timestamp? (.int e.timestamp.millis) = .ok e.timestamp := by
    have hbound : e.timestamp.millis < Number.signed64 :=
      Int.lt_of_le_of_lt hhigh (by decide)
    exact timestamp?_int_eq_ok.mpr ⟨hbound, hwhole.ofMillis?_millis⟩
  have htruncate : e.timestamp.truncate = e.timestamp :=
    (Instant.isWholeMilli_iff_truncate_eq hwhole.ofMillis?_millis).mp hwhole
  refine (ofFields_directObject h.source).mpr ⟨e.timestamp, e.message, htime,
    requiredText_of_isStripped h.message, ?_⟩
  rw [Entry.ofInstant, htruncate]

/-- **Entries are normal forms**: in the message and in the source of the entry of a line something
is not blank, and neither ends with a line end, so every client asks its provider for the embedding
of the message. The entry itself, as a direct object, is accepted again and comes to itself, if its
time is in the supported range. -/
theorem normal_form (h : ofLine line bytes = .ok e) :
    (Text.IsStripped e.message ∧ Text.IsStripped e.source) ∧
    (∀ (c : Client) (reply : Nat → Reply Embedding) (now fuel : Nat),
      ∃ later, (c.embed e.message reply now (fuel + 1)).attempts = now :: later) ∧
    (Instant.minMillis ≤ e.timestamp.millis → e.timestamp.millis ≤ Instant.maxMillis →
      ∀ line', ofJson line' (.obj e.toObject) = .ok e ∧
        ∀ bytes', Json.ofBytes? bytes' = some (.obj e.toObject) → ofLine line' bytes' = .ok e) := by
  have hnormal := isNormal_of_ofLine h
  refine ⟨⟨hnormal.message, hnormal.source⟩, fun c reply now fuel => ?_,
    fun hlow hhigh line' => ?_⟩
  · have hblank : ¬ Text.isBlankText e.message :=
      Bool.eq_false_iff.mp hnormal.message.isBlankText_eq_false
    exact c.exists_attempts_embed hblank reply now fuel
  · have hself : ofFields line' e.toObject = .ok e := hnormal.ofFields_toObject hlow hhigh
    refine ⟨hself, fun bytes' hbytes' => ?_⟩
    rw [ofLine_of_obj hbytes', hself]

/-- A shipped line with a line end behind its message, with blanks around its source, and from less
than a millisecond before 1970. -/
def untidyLine : List UInt8 :=
  Text.Utf8.encode ("\x7b\"log\":\"up\\r\\n\",\"file\":\" a b \"," ++
    "\"time\":\"1969-12-31T23:59:59.9995Z\",\"stream\":\"stderr\"\x7d")

/-- Its entry as a direct object. -/
def tidyLine : List UInt8 :=
  Text.Utf8.encode ("\x7b\"timestamp\":-1,\"message\":\"up\",\"source\":\"a b\"," ++
    "\"metadata\":\x7b\"stream\":\"stderr\"\x7d\x7d")

/-- Both are accepted as the same entry. -/
theorem normal_form_untidy : ∃ e, ofLine 1 untidyLine = .ok e ∧ e.timestamp.millis = -1 ∧
    Instant.minMillis ≤ e.timestamp.millis ∧ e.timestamp.millis ≤ Instant.maxMillis ∧
    Text.IsStripped e.message ∧ Json.ofBytes? tidyLine = some (.obj e.toObject) ∧
    ofLine 2 tidyLine = .ok e := by
  have hline : ofLine 1 untidyLine =
      .ok ⟨⟨-1, 999000000⟩, "up", "a b", [("stream", .str "stderr")]⟩ := by decide +kernel
  have htidy : Json.ofBytes? tidyLine = some (.obj (toObject
      ⟨⟨-1, 999000000⟩, "up", "a b", [("stream", .str "stderr")]⟩)) := by decide +kernel
  obtain ⟨⟨hmessage, -⟩, -, hself⟩ := normal_form hline
  exact ⟨_, hline, rfl, by decide, by decide, hmessage, htidy,
    (hself (by decide) (by decide) 2).2 _ htidy⟩

end LogIntake.Entry
