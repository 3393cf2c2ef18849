import LogIntake.Proofs.Entry.Parts
import LogIntake.Proofs.Time.Supported
import LogIntake.Proofs.Time.Truncation

/-!
# The precision of timestamps

Every value that is read as a timestamp names a supported instant (`timestamp?_supported`), be it a
count of milliseconds, a number of seconds or a written time. So the time of an entry is the
greatest whole millisecond that is not after the instant that its line names, and lines that name
instants in one millisecond come to entries with the same time (`millisecond_precision`).

This leaves out one second of all times: the leap second at the end of the range is kept as it is
written, to the nanosecond, so there the time of an entry is no whole millisecond
(`not_forall_isFloor`).
-/

namespace LogIntake.Entry

open Time (Instant)

variable {line : Nat} {bytes : List UInt8} {v : Json} {e : Entry} {t : Instant}

/-- A number of seconds names a whole millisecond. -/
theorem exists_ofMillis?_of_ofSeconds? {x : Number.Double} (h : ofSeconds? x = some t) :
    ∃ ms, Instant.ofMillis? ms = some t := by
  rw [ofSeconds?] at h
  split at h
  · exact ⟨_, (Option.ite_none_right_eq_some.mp h).2⟩
  · cases h

/-- What a timestamp names is supported. -/
theorem timestamp?_supported (h : timestamp? v = .ok t) :
    Instant.ofParts? t.seconds t.nanos = some t := by
  cases v with
  | int n => exact Instant.ofMillis?_supported (timestamp?_int_eq_ok.mp h).2
  | float x =>
    obtain ⟨ms, hms⟩ := exists_ofMillis?_of_ofSeconds? (timestamp?_float_eq_ok.mp h)
    exact Instant.ofMillis?_supported hms
  | str s =>
    have hwritten := timestamp?_str_eq_ok.mp h
    rw [ofWritten?, Option.orElse_eq_orElse, Option.orElse_eq_or, Option.or_eq_some_iff] at hwritten
    rcases hwritten with hzoned | ⟨-, hlocal⟩
    · exact Instant.ofRfc3339?_supported hzoned
    · exact Instant.ofLocal?_supported hlocal
  | null | bool _ | arr _ | obj _ => cases h

/-- The instant that a line names for its time. -/
def NamesTime (bytes : List UInt8) (t : Instant) : Prop :=
  ∃ fields v, Json.ofBytes? bytes = some (.obj fields) ∧ timeValue? fields = some v ∧
    timestamp? v = .ok t

theorem NamesTime.unique {t' : Instant} (h : NamesTime bytes t) (h' : NamesTime bytes t') :
    t = t' := by
  obtain ⟨fields, v, hfields, hv, ht⟩ := h
  obtain ⟨fields', v', hfields', hv', ht'⟩ := h'
  obtain rfl := Json.obj.inj (Option.some.inj (hfields.symm.trans hfields'))
  obtain rfl := Option.some.inj (hv.symm.trans hv')
  exact Except.ok.inj (ht.symm.trans ht')

theorem NamesTime.supported (h : NamesTime bytes t) :
    Instant.ofParts? t.seconds t.nanos = some t := by
  obtain ⟨_, _, -, -, ht⟩ := h
  exact timestamp?_supported ht

/-- A line that is accepted names an instant. -/
theorem exists_namesTime (h : ofLine line bytes = .ok e) :
    ∃ t, NamesTime bytes t ∧ e.timestamp = t.truncate := by
  obtain ⟨fields, hfields⟩ := exists_fields_of_ofLine h
  rw [ofLine_of_obj hfields] at h
  obtain ⟨v, t, hv, ht, he⟩ := exists_time h
  exact ⟨t, ⟨fields, v, hfields, hv, ht⟩, he⟩

theorem timestamp_of_namesTime (h : ofLine line bytes = .ok e) (ht : NamesTime bytes t) :
    e.timestamp = t.truncate := by
  obtain ⟨t', ht', he⟩ := exists_namesTime h
  rw [ht.unique ht', he]

theorem isFloor_timestamp (h : ofLine line bytes = .ok e) (ht : NamesTime bytes t)
    (hlast : ¬ t.IsLast) : t.IsFloor e.timestamp := by
  rw [timestamp_of_namesTime h ht]
  exact Instant.isFloor_truncate ht.supported hlast

/-- **Times are held to the millisecond**: the time of an entry is the greatest whole millisecond
that is not after the instant that its line names, in every encoding and up to both ends of the
range, unless this instant lies in the last leap second; then it is the instant itself. So lines
that name instants in the same millisecond, outside of the last leap second, come to the same
time. -/
theorem millisecond_precision (h : ofLine line bytes = .ok e) :
    ∃ t, NamesTime bytes t ∧ (t.IsFloor e.timestamp ↔ ¬ t.IsLast) ∧
      (t.IsLast → e.timestamp = t) ∧
      ∀ line' bytes' e' t', ofLine line' bytes' = .ok e' → NamesTime bytes' t' →
        ¬ t.IsLast → ¬ t'.IsLast → t.elapsed / 1000000 = t'.elapsed / 1000000 →
        e.timestamp = e'.timestamp := by
  obtain ⟨t, ht, he⟩ := exists_namesTime h
  have hself : t.IsLast → e.timestamp = t := fun hlast =>
    he.trans (Instant.truncate_of_isLast hlast)
  refine ⟨t, ht, ⟨fun hfloor hlast => ?_, isFloor_timestamp h ht⟩, hself, ?_⟩
  · rw [hself hlast] at hfloor
    exact hlast.not_isFloor hfloor
  · intro line' bytes' e' t' h' ht' hlast hlast' hmillis
    rw [Instant.elapsed_ediv, Instant.elapsed_ediv] at hmillis
    exact (isFloor_timestamp h ht hlast).unique (isFloor_timestamp h' ht' hlast') hmillis

/-- A line from a leap second, half a millisecond into it. -/
def leapLine : List UInt8 :=
  Text.Utf8.encode
    "\x7b\"timestamp\":\"1969-12-31T23:59:60.0005Z\",\"message\":\"m\",\"source\":\"s\"\x7d"

/-- Its time is that of the second that follows. -/
theorem millisecond_precision_leap : ∃ e t, ofLine 1 leapLine = .ok e ∧ NamesTime leapLine t ∧
    ¬ t.IsLast ∧ t.IsFloor e.timestamp ∧ t = ⟨-1, 1000500000⟩ ∧ e.timestamp = ⟨0, 0⟩ := by
  have hobj : Json.ofBytes? leapLine = some (.obj [("message", .str "m"), ("source", .str "s"),
      ("timestamp", .str "1969-12-31T23:59:60.0005Z")]) := by decide +kernel
  have hline : ofLine 1 leapLine = .ok ⟨⟨0, 0⟩, "m", "s", []⟩ :=
    (ofLine_of_obj hobj).trans (by decide +kernel)
  have hnames : NamesTime leapLine ⟨-1, 1000500000⟩ :=
    ⟨_, _, hobj, rfl, timestamp?_str_eq_ok.mpr (by decide +kernel)⟩
  have hlast : ¬ Instant.IsLast ⟨-1, 1000500000⟩ := fun h => absurd h.1 (by decide)
  obtain ⟨t, ht, hfloor, -⟩ := millisecond_precision hline
  obtain rfl := ht.unique hnames
  exact ⟨_, _, hline, hnames, hlast, hfloor.mpr hlast, rfl, rfl⟩

/-- A line from the last leap second, half a millisecond into it. -/
def lastLine : List UInt8 :=
  Text.Utf8.encode
    "\x7b\"timestamp\":\"+262142-12-31T23:59:60.0005\",\"message\":\"m\",\"source\":\"s\"\x7d"

/-- The time of an entry is not always a whole millisecond. -/
theorem not_forall_isFloor : ¬ ∀ line bytes e t, ofLine line bytes = .ok e → NamesTime bytes t →
    t.IsFloor e.timestamp := by
  intro hall
  have hline : ofLine 1 lastLine = .ok ⟨⟨8210266876799, 1000500000⟩, "m", "s", []⟩ := by
    decide +kernel
  obtain ⟨t, ht, -⟩ := exists_namesTime hline
  exact absurd (hall 1 lastLine _ t hline ht).nanos (by decide)

end LogIntake.Entry
