import LogIntake.Proofs.Entry.Shapes
import LogIntake.Proofs.Time.Written

/-!
# Encodings of one time

A count of milliseconds can be put into a line in many ways: as the count itself, or as the date and
time that clocks somewhere show (`shownAt`), with their offset from UTC, or in UTC without one. The
letters, the digits below a millisecond and the blanks around the text are left to the writer
(`Encodes`).

All encodings of one count are read as the instant of the count (`encodings_agree`). The date and
time that are shown name the instant again, before 1970 and after it, also where the offset leads
into another day or year; and what is written below a millisecond is cut off.
-/

namespace LogIntake.Entry

open Text (isBlank)
open Time (Civil Instant IsZone localMarks marks writeCivil)

variable {ms minutes : Int} {digits : List Char} {v : Json}

/-! ### Clocks -/

/-- The instant at which clocks in UTC show what clocks that are some minutes ahead of UTC show at a
count of milliseconds. -/
def shownInstant (ms minutes : Int) : Instant :=
  ⟨ms / 1000 + minutes * 60, (ms % 1000).toNat * 1000000⟩

/-- What clocks that are some minutes ahead of UTC show at a count of milliseconds. -/
def shownAt (ms minutes : Int) : Civil :=
  (shownInstant ms minutes).toCivil

/-- Clocks that show a year of four digits. -/
def ShowsFourDigits (ms minutes : Int) : Prop :=
  0 ≤ (shownAt ms minutes).date.year ∧ (shownAt ms minutes).date.year ≤ 9999

instance : Decidable (ShowsFourDigits ms minutes) :=
  inferInstanceAs (Decidable (_ ∧ _))

theorem nanos_shownInstant : (shownInstant ms minutes).nanos < 1000000000 := by
  simp only [shownInstant]
  omega

theorem ofParts?_shownInstant (h : ShowsFourDigits ms minutes) :
    Instant.ofParts? (shownInstant ms minutes).seconds (shownInstant ms minutes).nanos =
      some (shownInstant ms minutes) :=
  Instant.ofParts?_of_year nanos_shownInstant h.1 h.2

theorem isWritable_shownAt (h : ShowsFourDigits ms minutes) : (shownAt ms minutes).IsWritable :=
  Instant.isWritable_toCivil (ofParts?_shownInstant h) h

/-- The second of a count in a year of four digits is supported. -/
theorem ofSeconds?_of_showsFourDigits (h : ShowsFourDigits ms 0) (nanos : Nat) :
    Instant.ofSeconds? (ms / 1000) nanos = some ⟨ms / 1000, nanos⟩ := by
  obtain ⟨-, hrange⟩ := Instant.ofParts?_eq_some (ofParts?_shownInstant h)
  rw [shownInstant, Int.zero_mul, Int.add_zero] at hrange
  exact if_pos hrange

/-- What clocks show names an instant in the same millisecond, with whatever digits behind those of
the millisecond. -/
theorem ofCivil?_shownAt (hutc : ShowsFourDigits ms 0) (h : ShowsFourDigits ms minutes)
    (hdigits : ∀ d ∈ digits, d.isDigit) :
    ∃ u, Instant.ofCivil? ((shownAt ms minutes).withDigits digits) (minutes * 60) = some u ∧
      u.millis = ms := by
  have hmillis : (shownAt ms minutes).nanos / 1000000 = (ms % 1000).toNat := by
    rw [shownAt, Instant.nanos_toCivil nanos_shownInstant]
    exact Nat.mul_div_cancel _ (by decide)
  have hnanos : ((shownAt ms minutes).withDigits digits).nanos / 1000000 = (ms % 1000).toNat := by
    have hbound : (shownAt ms minutes).nanos / 1000000 < 1000 := by omega
    exact (Time.nanosOf_padded_append_div hbound hdigits).trans hmillis
  refine ⟨⟨ms / 1000, ((shownAt ms minutes).withDigits digits).nanos⟩, ?_, ?_⟩
  · refine (Instant.ofCivil?_withNanos (ofParts?_shownInstant h) _ _).trans ?_
    rw [if_neg (Instant.second_toCivil_ne nanos_shownInstant), shownInstant, Int.add_sub_cancel]
    exact ofSeconds?_of_showsFourDigits hutc _
  · simp only [Instant.millis, hnanos]
    omega

/-! ### Encodings -/

/-- The ways to write a count of milliseconds: as the number; as the date and time that clocks show,
with their offset; and as the date and time in UTC. -/
inductive Encodes (ms : Int) : Json → Prop
  | count : Encodes ms (.int ms)
  | zoned {minutes : Int} {mark : Char} {digits zone before after : List Char} :
    ShowsFourDigits ms minutes → IsZone minutes zone → mark ∈ marks →
    (∀ d ∈ digits, d.isDigit) → (∀ c ∈ before, isBlank c) → (∀ c ∈ after, isBlank c) →
    Encodes ms (.str (String.ofList
      (before ++ (writeCivil mark (shownAt ms minutes) digits ++ zone) ++ after)))
  | inUtc {mark : Char} {digits before after : List Char} :
    mark ∈ localMarks → (∀ d ∈ digits, d.isDigit) → (∀ c ∈ before, isBlank c) →
    (∀ c ∈ after, isBlank c) →
    Encodes ms (.str (String.ofList (before ++ writeCivil mark (shownAt ms 0) digits ++ after)))

/-- Blanks around a written time do not count. -/
theorem timestamp?_str {before cs after : List Char} {u : Instant}
    (hbefore : ∀ c ∈ before, isBlank c) (hafter : ∀ c ∈ after, isBlank c)
    (hfirst : ∀ c ∈ cs.head?, isBlank c = false) (hlast : ∀ c ∈ cs.getLast?, isBlank c = false)
    (h : (Instant.ofRfc3339? cs <|> Instant.ofLocal? cs) = some u) :
    timestamp? (.str (String.ofList (before ++ cs ++ after))) = .ok u := by
  rw [timestamp?_str_eq_ok, ofWritten?, Text.trim_append hbefore hafter hfirst hlast,
    String.toList_ofList, h]

/-- An encoding of a count names an instant in its millisecond. -/
theorem Encodes.timestamp? (hv : Encodes ms v) (hutc : ShowsFourDigits ms 0) :
    ∃ u, timestamp? v = .ok u ∧ u.millis = ms := by
  cases hv with
  | count =>
    have ht := ofSeconds?_of_showsFourDigits hutc ((ms % 1000).toNat * 1000000)
    have hmax : ms ≤ Instant.maxMillis :=
      (Instant.isSome_ofMillis?_iff.mp (Option.isSome_of_eq_some ht)).2
    have hbound : ms < Number.signed64 := Int.lt_of_le_of_lt hmax (by decide)
    refine ⟨_, timestamp?_int_eq_ok.mpr ⟨hbound, ht⟩, ?_⟩
    simp only [Instant.millis, Nat.mul_div_cancel _ (show 0 < 1000000 by decide)]
    omega
  | @zoned minutes mark digits zone before after hyear hzone hmark hdigits hbefore hafter =>
    obtain ⟨u, hu, hmillis⟩ := ofCivil?_shownAt hutc hyear hdigits
    refine ⟨u, timestamp?_str hbefore hafter (fun _ => Time.isBlank_head?_writeCivil) ?_ ?_,
      hmillis⟩
    · intro c hc
      rw [List.getLast?_append_of_ne_nil _ hzone.not_isBlank.1] at hc
      exact hzone.not_isBlank.2 c hc
    · rw [Time.ofRfc3339?_zoned (isWritable_shownAt hyear) hmark hdigits hzone, hu]
      rfl
  | @inUtc mark digits before after hmark hdigits hbefore hafter =>
    obtain ⟨u, hu, hmillis⟩ := ofCivil?_shownAt hutc hutc hdigits
    have hc := isWritable_shownAt hutc
    refine ⟨u, timestamp?_str hbefore hafter (fun c hc => ?_)
      (fun _ => Time.isBlank_getLast?_writeCivil hdigits) ?_, hmillis⟩
    · rw [← List.append_nil (writeCivil _ _ _)] at hc
      exact Time.isBlank_head?_writeCivil hc
    · have hmarks : mark ∈ marks := (by decide : localMarks ⊆ marks) hmark
      rw [Time.ofRfc3339?_local hc hmarks hdigits, Time.ofLocal?_writeCivil hc hmark hdigits hu]
      rfl

/-- **Encodings of one time agree**: whatever stands for a count of milliseconds, whose year has
four digits in UTC, is read as one and the same instant, which is the whole millisecond of that
count. It is the time of every line that has the encoding for its time, and such a line is not
refused for it. -/
theorem encodings_agree (ms : Int) (hutc : ShowsFourDigits ms 0) :
    ∃ t : Instant, t.IsWholeMilli ∧ t.millis = ms ∧ ∀ v, Encodes ms v →
      (∃ u, timestamp? v = .ok u ∧ u.truncate = t) ∧
      (∀ line bytes fields e, Json.ofBytes? bytes = some (.obj fields) →
        timeValue? fields = some v → ofLine line bytes = .ok e → e.timestamp = t) ∧
      ∀ line message source metadata, Text.IsStripped message → Text.IsStripped source →
        ofFields line (directObject v (.str message) source metadata) =
          .ok ⟨t, message, source, metadata⟩ := by
  obtain ⟨t, ht⟩ : ∃ t, Instant.ofMillis? ms = some t :=
    ⟨_, ofSeconds?_of_showsFourDigits hutc _⟩
  refine ⟨t, ⟨ms, ht⟩, (Instant.ofMillis?_eq_some_iff.mp ht).2.2.1, fun v hv => ?_⟩
  obtain ⟨u, hu, hmillis⟩ := hv.timestamp? hutc
  have htruncate : u.truncate = t := by rw [Instant.truncate, hmillis, ht, Option.getD_some]
  refine ⟨⟨u, hu, htruncate⟩, fun line bytes fields e hobj htime h => ?_,
    fun line message source metadata hmessage hsource => ?_⟩
  · rw [ofLine_of_obj hobj] at h
    obtain ⟨w, u', hw, hu', he⟩ := exists_time h
    obtain rfl := Option.some.inj (htime.symm.trans hw)
    obtain rfl := Except.ok.inj (hu.symm.trans hu')
    exact he.trans htruncate
  · refine (ofFields_directObject hsource).mpr
      ⟨u, message, hu, requiredText_of_isStripped hmessage, ?_⟩
    rw [Entry.ofInstant, htruncate]

/-- Less than a millisecond before 1970: in UTC, and in the new year of clocks that are ahead of it,
with blanks around and with more digits. -/
theorem encodings_agree_before_1970 : ShowsFourDigits (-1) 0 ∧
    Encodes (-1) (.str "1969-12-31 23:59:59.999") ∧
    Encodes (-1) (.str " 1970-01-01t01:29:59.99975+01:30\n") ∧
    ∃ t : Instant, t.millis = -1 ∧
      ofFields 1 (directObject (.str "1969-12-31 23:59:59.999") (.str "up") "a" []) =
        .ok ⟨t, "up", "a", []⟩ ∧
      ofFields 1 (directObject (.str " 1970-01-01t01:29:59.99975+01:30\n") (.str "up") "a" []) =
        .ok ⟨t, "up", "a", []⟩ := by
  have hutc : ShowsFourDigits (-1) 0 := by decide +kernel
  have hzone : IsZone 90 "+01:30".toList := IsZone.ahead (by decide)
  have hlocal : Encodes (-1) (.str "1969-12-31 23:59:59.999") := by
    have htext : String.ofList ([] ++ writeCivil ' ' (shownAt (-1) 0) [] ++ []) =
        "1969-12-31 23:59:59.999" := by decide +kernel
    exact htext ▸ .inUtc (by decide) nofun nofun nofun
  have hahead : Encodes (-1) (.str " 1970-01-01t01:29:59.99975+01:30\n") := by
    have htext : String.ofList ([' '] ++
        (writeCivil 't' (shownAt (-1) 90) ['7', '5'] ++ "+01:30".toList) ++ ['\n']) =
        " 1970-01-01t01:29:59.99975+01:30\n" := by decide +kernel
    exact htext ▸ .zoned (by decide +kernel) hzone (by decide) (List.all_eq_true.mp rfl)
      (List.all_eq_true.mp rfl) (List.all_eq_true.mp rfl)
  have hup : Text.IsStripped "up" := by decide +kernel
  have ha : Text.IsStripped "a" := by decide +kernel
  obtain ⟨t, -, hmillis, hagree⟩ := encodings_agree (-1) hutc
  exact ⟨hutc, hlocal, hahead, t, hmillis, (hagree _ hlocal).2.2 1 "up" "a" [] hup ha,
    (hagree _ hahead).2.2 1 "up" "a" [] hup ha⟩

end LogIntake.Entry
