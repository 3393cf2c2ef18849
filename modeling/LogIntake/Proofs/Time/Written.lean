import LogIntake.Proofs.Text.Blank
import LogIntake.Proofs.Text.Digits
import LogIntake.Proofs.Time.Instant
import LogIntake.Time.Text

/-!
# Times that are written are read

The internet format gives every field its own width, so a time in it is read field by field, the
date up to the mark and the time of day up to the offset (`ofRfc3339?_eq`): a number that was
written with as many digits as are looked for is the number that is found (`number?_padded`). The
digits of a fraction are read as nanoseconds (`nanosOf`), and those behind the third one do not
change the milliseconds (`nanosOf_padded_append_div`).

`writeCivil` puts down a date and time with any mark between the two and with any digits behind the
milliseconds. With an offset behind it, it is read as the time that clocks show there
(`ofRfc3339?_zoned`); without one, it is no time in the internet format (`ofRfc3339?_local`), but a
time in UTC (`ofLocal?_writeCivil`). What the writer puts down for an instant of a year that has
four digits is read as the instant itself (`ofRfc3339?_rfc3339Millis`).
-/

namespace LogIntake.Time

open LogIntake.Text (digitsValue isBlank padded trimStart)

/-! ### Fields -/

/-- A number is read that was written with as many digits as are looked for at most. -/
@[simp]
theorem number?_padded {low width n : Nat} (hlow : low ≤ width) (hwidth : 0 < width)
    (h : n < Nat.pow 10 width) (r : List Char) :
    number? low width (padded width n ++ r) = some (n, r) := by
  have hlength := Text.length_padded hwidth h
  have htake : (padded width n ++ r).take width = padded width n := by
    rw [List.take_append_of_le_length hlength.ge, List.take_of_length_le hlength.le]
  have hdigits : (padded width n).takeWhile Char.isDigit = padded width n :=
    List.takeWhile_eq_self_iff.mpr fun _ => Text.isDigit_of_mem_padded
  simp only [number?, htake, hdigits, hlength, Nat.not_lt.mpr hlow, if_false,
    Text.digitsValue_padded, List.drop_left' hlength]

@[simp]
theorem char?_self (c : Char) (r : List Char) : char? c (c :: r) = some r :=
  if_pos rfl

/-- The marks between date and time in the internet format. -/
def marks : List Char := ['T', 't', ' ']

theorem mark?_of_mem {mark : Char} (h : mark ∈ marks) (r : List Char) :
    mark? (mark :: r) = some r := by
  simp only [marks, List.mem_cons, List.not_mem_nil, or_false] at h
  rcases h with rfl | rfl | rfl <;> rfl

/-! ### Fractions -/

/-- The nanoseconds that the digits of a fraction stand for; digits after the ninth are left
out. -/
def nanosOf (ds : List Char) : Nat :=
  digitsValue (ds.take 9) * Nat.pow 10 (9 - (ds.take 9).length)

theorem fraction?_point (r : List Char) : fraction? ('.' :: r) =
    if (r.takeWhile Char.isDigit).isEmpty then none
    else some (nanosOf (r.takeWhile Char.isDigit), r.drop (r.takeWhile Char.isDigit).length) :=
  rfl

/-- The digits of a fraction are read as nanoseconds. -/
theorem fraction?_digits {ds r : List Char} (hne : ds ≠ []) (hds : ∀ c ∈ ds, c.isDigit)
    (hr : ∀ c ∈ r.head?, ¬ c.isDigit) : fraction? ('.' :: (ds ++ r)) = some (nanosOf ds, r) := by
  rw [fraction?_point, Text.takeWhile_append_of_head? hds hr,
    if_neg fun h => hne (List.isEmpty_iff.mp h), List.drop_left]

/-- A fraction is less than a second. -/
theorem nanosOf_lt {ds : List Char} (h : ∀ c ∈ ds, c.isDigit) : nanosOf ds < 1000000000 := by
  have hlength : (ds.take 9).length ≤ 9 := List.length_take_le 9 ds
  have hlt : digitsValue (ds.take 9) < Nat.pow 10 (ds.take 9).length :=
    Text.digitsValue_lt fun c hc => h c (List.mem_of_mem_take hc)
  calc nanosOf ds
      < Nat.pow 10 (ds.take 9).length * Nat.pow 10 (9 - (ds.take 9).length) :=
        Nat.mul_lt_mul_of_pos_right hlt (Nat.pow_pos (by decide))
    _ = Nat.pow 10 9 := by
        rw [Nat.pow_eq, Nat.pow_eq, Nat.pow_eq, ← Nat.pow_add, Nat.add_sub_cancel' hlength]

/-- The first three digits of a fraction are its milliseconds, whatever comes after them. -/
theorem nanosOf_padded_append_div {n : Nat} (hn : n < 1000) {ds : List Char}
    (hds : ∀ c ∈ ds, c.isDigit) : nanosOf (padded 3 n ++ ds) / 1000000 = n := by
  have hlength : (padded 3 n).length = 3 := Text.length_padded (by decide) hn
  have htake : (padded 3 n ++ ds).take 9 = padded 3 n ++ ds.take 6 := by
    rw [List.take_append, hlength, List.take_of_length_le (by rw [hlength]; decide)]
  have hlt : digitsValue (ds.take 6) < Nat.pow 10 (ds.take 6).length :=
    Text.digitsValue_lt fun c hc => hds c (List.mem_of_mem_take hc)
  have hle : (ds.take 6).length ≤ 6 := List.length_take_le 6 ds
  rw [nanosOf, htake, Text.digitsValue_append, Text.digitsValue_padded, List.length_append,
    hlength]
  -- what comes after the milliseconds is less than one of them
  generalize digitsValue (ds.take 6) = v, (ds.take 6).length = k at hlt hle ⊢
  have hpow : Nat.pow 10 k * Nat.pow 10 (9 - (3 + k)) = 1000000 := by
    rw [Nat.pow_eq, Nat.pow_eq, ← Nat.pow_add, show k + (9 - (3 + k)) = 6 by omega]
  have hrest : v * Nat.pow 10 (9 - (3 + k)) < 1000000 :=
    hpow ▸ Nat.mul_lt_mul_of_pos_right hlt (Nat.pow_pos (by decide))
  rw [Nat.add_mul, Nat.mul_assoc, hpow]
  omega

/-! ### Offsets -/

/-- How an offset of some minutes is written in the internet format: with a sign, or with the letter
for UTC. -/
inductive IsZone : Int → List Char → Prop
  | utc : IsZone 0 ['Z']
  | utcSmall : IsZone 0 ['z']
  | ahead {n : Nat} : n < 1440 →
    IsZone n ('+' :: (padded 2 (n / 60) ++ ':' :: padded 2 (n % 60)))
  | behind {n : Nat} : n < 1440 →
    IsZone (-n) ('-' :: (padded 2 (n / 60) ++ ':' :: padded 2 (n % 60)))

/-- The minutes of an offset with a sign are read after the sign. -/
theorem offset?_signed {sign : Int} {n : Nat} {c : Char} (hn : n < 1440) (hZ : c ≠ 'Z')
    (hz : c ≠ 'z') (hsign : ∀ r, offsetSign? (c :: r) = some (sign, r)) :
    offset? (char? ':') (c :: (padded 2 (n / 60) ++ ':' :: padded 2 (n % 60))) =
      some (sign * n * 60, []) := by
  have hhours := number?_padded (Nat.le_refl 2) (by decide) (show n / 60 < 100 by omega)
    (':' :: padded 2 (n % 60))
  have hminutes := number?_padded (Nat.le_refl 2) (by decide) (show n % 60 < 100 by omega) []
  rw [List.append_nil] at hminutes
  have hbound : n % 60 < 60 ∧ n / 60 < 24 := by omega
  have hsum : ((n / 60 * 3600 + n % 60 * 60 : Nat) : Int) = n * 60 := by omega
  rw [offset?.eq_def]
  split
  · rename_i heq
    exact absurd (List.cons.inj heq).1 hZ
  · rename_i heq
    exact absurd (List.cons.inj heq).1 hz
  · simp only [hsign, hhours, char?_self, hminutes, hbound, Option.bind_eq_bind, Option.bind_some,
      and_self, if_true, hsum, Int.mul_assoc]

theorem IsZone.offset? {minutes : Int} {zone : List Char} (h : IsZone minutes zone) :
    offset? (char? ':') zone = some (minutes * 60, []) := by
  cases h with
  | utc => rfl
  | utcSmall => rfl
  | ahead hn =>
    rw [offset?_signed hn (by decide) (by decide) fun _ => rfl, Int.one_mul]
  | behind hn =>
    rw [offset?_signed hn (by decide) (by decide) fun _ => rfl, Int.neg_one_mul]

/-- An offset does not begin with a digit. -/
theorem IsZone.not_isDigit {minutes : Int} {zone : List Char} (h : IsZone minutes zone) :
    ∀ c ∈ zone.head?, ¬ c.isDigit := by
  intro c hc
  cases h <;> obtain rfl := Option.some.inj hc <;> decide

/-- An offset does not end with a blank. -/
theorem IsZone.not_isBlank {minutes : Int} {zone : List Char} (h : IsZone minutes zone) :
    zone ≠ [] ∧ ∀ c ∈ zone.getLast?, isBlank c = false := by
  have hsigned : ∀ sign m n, ∀ c ∈ (sign :: (padded 2 m ++ ':' :: padded 2 n)).getLast?,
      isBlank c = false := by
    intro sign m n c hc
    rw [← List.cons_append, List.append_cons] at hc
    exact Text.isBlank_of_isDigit (Text.isDigit_getLast?_append Text.padded_ne_nil
      (fun _ => Text.isDigit_of_mem_padded) hc)
  cases h with
  | utc | utcSmall => exact ⟨List.cons_ne_nil _ _, fun c hc => Option.some.inj hc ▸ rfl⟩
  | ahead _ => exact ⟨List.cons_ne_nil _ _, hsigned _ _ _⟩
  | behind _ => exact ⟨List.cons_ne_nil _ _, hsigned _ _ _⟩

/-! ### Dates and times -/

/-- A date with the digits that the internet format has for it. -/
def writeDate (d : Date) : List Char :=
  padded 4 d.year.toNat ++ '-' :: (padded 2 d.month ++ '-' :: padded 2 d.day)

/-- A time of day in milliseconds, with more digits of a second behind them. -/
def writeTime (c : Civil) (digits : List Char) : List Char :=
  padded 2 c.hour ++ ':' :: (padded 2 c.minute ++ ':' :: (padded 2 c.second ++
    '.' :: (padded 3 (c.nanos / 1000000) ++ digits)))

/-- A date and time with a mark between the two. -/
def writeCivil (mark : Char) (c : Civil) (digits : List Char) : List Char :=
  writeDate c.date ++ mark :: writeTime c digits

/-- A date and time that the internet format has the digits for. -/
structure Civil.IsWritable (c : Civil) : Prop where
  year : 0 ≤ c.date.year ∧ c.date.year ≤ 9999
  month : c.date.month < 100
  day : c.date.day < 100
  hour : c.hour < 100
  minute : c.minute < 100
  second : c.second < 100
  nanos : c.nanos < 1000000000

/-- The date and time with the digits of its second that were written. -/
def Civil.withDigits (c : Civil) (digits : List Char) : Civil :=
  { c with nanos := nanosOf (padded 3 (c.nanos / 1000000) ++ digits) }

variable {c : Civil} {mark : Char} {digits r : List Char}

theorem Civil.IsWritable.toNat_year (hc : c.IsWritable) :
    c.date.year.toNat < Nat.pow 10 4 ∧ (c.date.year.toNat : Int) = c.date.year :=
  ⟨show _ < 10000 by have := hc.year; omega, Int.toNat_of_nonneg hc.year.1⟩

/-- All digits of a second are read, up to what stands behind them. -/
theorem Civil.IsWritable.fraction? (hc : c.IsWritable) (hdigits : ∀ d ∈ digits, d.isDigit)
    (hr : ∀ d ∈ r.head?, ¬ d.isDigit) :
    fraction? ('.' :: (padded 3 (c.nanos / 1000000) ++ (digits ++ r))) =
      some ((c.withDigits digits).nanos, r) := by
  have hlength : (padded 3 (c.nanos / 1000000)).length = 3 :=
    Text.length_padded (by decide) (show _ < 1000 by have := hc.nanos; omega)
  rw [← List.append_assoc]
  refine fraction?_digits ?_ ?_ hr
  · rw [← List.length_pos_iff, List.length_append, hlength]
    omega
  · intro d hd
    rcases List.mem_append.mp hd with hd | hd
    · exact Text.isDigit_of_mem_padded hd
    · exact hdigits d hd

/-! ### Fields of fixed width -/

/-- Reads a date of the internet format. -/
def fixedDate? (s : List Char) : Option (Date × List Char) := do
  let (year, s) ← number? 4 4 s
  let s ← char? '-' s
  let (month, s) ← number? 2 2 s
  let s ← char? '-' s
  let (day, s) ← number? 2 2 s
  pure (⟨year, month, day⟩, s)

/-- Reads a time of day of the internet format. -/
def fixedTime? (date : Date) (s : List Char) : Option (Civil × List Char) := do
  let (hour, s) ← number? 2 2 s
  let s ← char? ':' s
  let (minute, s) ← number? 2 2 s
  let s ← char? ':' s
  let (second, s) ← number? 2 2 s
  let (nanos, s) ← fraction? s
  pure (⟨date, hour, minute, second, nanos⟩, s)

/-- What comes after a date comes after its last field. -/
theorem fixedDate?_bind {α : Type} (s : List Char) (k : Date × List Char → Option α) :
    (fixedDate? s).bind k = (do
      let (year, s) ← number? 4 4 s
      let s ← char? '-' s
      let (month, s) ← number? 2 2 s
      let s ← char? '-' s
      let (day, s) ← number? 2 2 s
      k (⟨year, month, day⟩, s)) := by
  rw [fixedDate?]
  repeat refine (Option.bind_assoc _ _ _).trans (Option.bind_congr fun _ _ => ?_)
  rfl

/-- What comes after a time of day comes after its last field. -/
theorem fixedTime?_bind {α : Type} (date : Date) (s : List Char)
    (k : Civil × List Char → Option α) :
    (fixedTime? date s).bind k = (do
      let (hour, s) ← number? 2 2 s
      let s ← char? ':' s
      let (minute, s) ← number? 2 2 s
      let s ← char? ':' s
      let (second, s) ← number? 2 2 s
      let (nanos, s) ← fraction? s
      k (⟨date, hour, minute, second, nanos⟩, s)) := by
  rw [fixedTime?]
  repeat refine (Option.bind_assoc _ _ _).trans (Option.bind_congr fun _ _ => ?_)
  rfl

/-- A time in the internet format is a date, a mark, a time of day and an offset. -/
theorem ofRfc3339?_eq (s : List Char) : Instant.ofRfc3339? s = (do
    let (date, s) ← fixedDate? s
    let s ← mark? s
    let (civil, s) ← fixedTime? date s
    let (offset, s) ← offset? (char? ':') s
    if s.isEmpty then Instant.ofCivil? civil offset else none) := by
  refine ((fixedDate?_bind s _).trans ?_).symm
  -- past the fields of the date and the mark
  iterate 6 refine Option.bind_congr fun _ _ => ?_
  exact fixedTime?_bind _ _ _

theorem Civil.IsWritable.fixedDate? (hc : c.IsWritable) (r : List Char) :
    fixedDate? (writeDate c.date ++ r) = some (c.date, r) := by
  obtain ⟨hyear, hcast⟩ := hc.toNat_year
  simp only [Time.fixedDate?, writeDate, List.append_assoc, List.cons_append,
    number?_padded (Nat.le_refl 4) (by decide) hyear,
    number?_padded (Nat.le_refl 2) (by decide) hc.month,
    number?_padded (Nat.le_refl 2) (by decide) hc.day, char?_self, hcast, Option.bind_eq_bind,
    Option.bind_some, Option.pure_def]

theorem Civil.IsWritable.fixedTime? (hc : c.IsWritable) (hdigits : ∀ d ∈ digits, d.isDigit)
    (hr : ∀ d ∈ r.head?, ¬ d.isDigit) :
    fixedTime? c.date (writeTime c digits ++ r) = some (c.withDigits digits, r) := by
  simp only [Time.fixedTime?, writeTime, List.append_assoc, List.cons_append,
    number?_padded (Nat.le_refl 2) (by decide) hc.hour,
    number?_padded (Nat.le_refl 2) (by decide) hc.minute,
    number?_padded (Nat.le_refl 2) (by decide) hc.second, char?_self, hc.fraction? hdigits hr,
    Option.bind_eq_bind, Option.bind_some, Option.pure_def]
  rfl

/-- What is written is read up to the offset, and the offset decides about the rest. -/
theorem ofRfc3339?_writeCivil (hc : c.IsWritable) (hmark : mark ∈ marks)
    (hdigits : ∀ d ∈ digits, d.isDigit) (hr : ∀ d ∈ r.head?, ¬ d.isDigit) :
    Instant.ofRfc3339? (writeCivil mark c digits ++ r) =
      (offset? (char? ':') r).bind fun o =>
        if o.2.isEmpty then Instant.ofCivil? (c.withDigits digits) o.1 else none := by
  simp only [ofRfc3339?_eq, writeCivil, List.append_assoc, List.cons_append, hc.fixedDate?,
    mark?_of_mem hmark, hc.fixedTime? hdigits hr, Option.bind_eq_bind, Option.bind_some]

/-! ### Short fields -/

/-- There is no blank before a padded number. -/
@[simp]
theorem trimStart_padded {width n : Nat} (r : List Char) :
    trimStart (padded width n ++ r) = padded width n ++ r := by
  have hfirst : ∀ c ∈ (padded width n ++ r).head?, isBlank c = false :=
    fun c hc => Text.isBlank_of_isDigit (Text.isDigit_head?_padded hc)
  rw [trimStart, Text.dropLeading]
  cases htext : padded width n ++ r with
  | nil => rfl
  | cons c rest =>
    rw [htext] at hfirst
    exact List.dropWhile_cons_of_neg (Bool.eq_false_iff.mp (hfirst c rfl))

theorem shortYear?_padded {n : Nat} (h : n < Nat.pow 10 4) (r : List Char) :
    shortYear? (padded 4 n ++ r) = some ((n : Int), r) := by
  have hsign : ∀ c r', padded 4 n ++ r = c :: r' → c.isDigit := by
    intro c r' heq
    have hhead : c ∈ (padded 4 n ++ r).head? := by rw [heq]; rfl
    exact Text.isDigit_head?_padded hhead
  rw [shortYear?, trimStart_padded]
  split
  · rename_i heq
    exact absurd (hsign _ _ heq) (by decide)
  · rename_i heq
    exact absurd (hsign _ _ heq) (by decide)
  · rw [number?_padded (by decide) (by decide) h, Option.map_some]

theorem short?_padded {n : Nat} (h : n < 100) (r : List Char) :
    short? (padded 2 n ++ r) = some (n, r) := by
  rw [short?, trimStart_padded, number?_padded (by decide) (by decide) h]

theorem Civil.IsWritable.shortDate? (hc : c.IsWritable) (r : List Char) :
    shortDate? id (writeDate c.date ++ r) = some (c.date, r) := by
  obtain ⟨hyear, hcast⟩ := hc.toNat_year
  simp only [Time.shortDate?, writeDate, List.append_assoc, List.cons_append,
    shortYear?_padded hyear, short?_padded hc.month, short?_padded hc.day, id_eq, char?_self,
    hcast, Option.bind_eq_bind, Option.bind_some, Option.pure_def]

theorem Civil.IsWritable.shortTime? (hc : c.IsWritable) (hdigits : ∀ d ∈ digits, d.isDigit) :
    shortTime? id c.date (writeTime c digits) = some (c.withDigits digits, []) := by
  have hfraction := hc.fraction? hdigits (r := []) nofun
  rw [List.append_nil] at hfraction
  simp only [Time.shortTime?, writeTime, short?_padded hc.hour, short?_padded hc.minute,
    short?_padded hc.second, id_eq, char?_self, hfraction, Option.bind_eq_bind, Option.bind_some,
    Option.pure_def]
  rfl

/-- The marks between date and time where there is no offset. -/
def localMarks : List Char := ['T', ' ']

/-- What is written without an offset is read as a time in UTC, if there is such a time. -/
theorem ofLocal?_writeCivil {t : Instant} (hc : c.IsWritable) (hmark : mark ∈ localMarks)
    (hdigits : ∀ d ∈ digits, d.isDigit) (ht : Instant.ofCivil? (c.withDigits digits) 0 = some t) :
    Instant.ofLocal? (writeCivil mark c digits) = some t := by
  have hread : ∀ between? : List Char → Option (List Char),
      between? (mark :: writeTime c digits) = some (writeTime c digits) →
        Instant.ofLocalWith? between? (writeCivil mark c digits) = some t := by
    intro between? hbetween
    simp only [Instant.ofLocalWith?, writeCivil, hc.shortDate?, hbetween, hc.shortTime? hdigits,
      Option.bind_eq_bind, Option.bind_some, List.isEmpty_nil, if_true, ht]
  simp only [localMarks, List.mem_cons, List.not_mem_nil, or_false] at hmark
  rcases hmark with rfl | rfl
  · rw [Instant.ofLocal?, hread _ (char?_self _ _)]
    rfl
  · have hletter : Instant.ofLocalWith? (char? 'T') (writeCivil ' ' c digits) = none := by
      simp only [Instant.ofLocalWith?, writeCivil, hc.shortDate?, Option.bind_eq_bind,
        Option.bind_some]
      rfl
    have hblank : trimStart (' ' :: writeTime c digits) = writeTime c digits :=
      trimStart_padded _
    rw [Instant.ofLocal?, hletter, hread (fun s => some (trimStart s)) (congrArg some hblank)]
    rfl

/-! ### Instants -/

/-- What is written with an offset is read as the time that clocks ahead of UTC by it show. -/
theorem ofRfc3339?_zoned {minutes : Int} {zone : List Char} (hc : c.IsWritable)
    (hmark : mark ∈ marks) (hdigits : ∀ d ∈ digits, d.isDigit) (hzone : IsZone minutes zone) :
    Instant.ofRfc3339? (writeCivil mark c digits ++ zone) =
      Instant.ofCivil? (c.withDigits digits) (minutes * 60) := by
  rw [ofRfc3339?_writeCivil hc hmark hdigits hzone.not_isDigit, hzone.offset?, Option.bind_some]
  rfl

/-- What is written without an offset is no time in the internet format. -/
theorem ofRfc3339?_local (hc : c.IsWritable) (hmark : mark ∈ marks)
    (hdigits : ∀ d ∈ digits, d.isDigit) :
    Instant.ofRfc3339? (writeCivil mark c digits) = none := by
  have h := ofRfc3339?_writeCivil hc hmark hdigits (r := []) nofun
  rwa [List.append_nil] at h

/-- What is written begins with a digit. -/
theorem isBlank_head?_writeCivil {d : Char} (h : d ∈ (writeCivil mark c digits ++ r).head?) :
    isBlank d = false := by
  simp only [writeCivil, writeDate, List.append_assoc] at h
  exact Text.isBlank_of_isDigit (Text.isDigit_head?_padded h)

/-- What is written without an offset ends with a digit. -/
theorem isBlank_getLast?_writeCivil (hdigits : ∀ d ∈ digits, d.isDigit) {d : Char}
    (h : d ∈ (writeCivil mark c digits).getLast?) : isBlank d = false := by
  have hne : padded 3 (c.nanos / 1000000) ++ digits ≠ [] :=
    List.append_ne_nil_of_left_ne_nil Text.padded_ne_nil _
  have hall : ∀ d ∈ padded 3 (c.nanos / 1000000) ++ digits, d.isDigit := fun d hd =>
    (List.mem_append.mp hd).elim Text.isDigit_of_mem_padded (hdigits d)
  have htext : ∃ s, writeCivil mark c digits = s ++ (padded 3 (c.nanos / 1000000) ++ digits) := by
    refine ⟨writeDate c.date ++ mark :: (padded 2 c.hour ++ ':' :: (padded 2 c.minute ++
      ':' :: (padded 2 c.second ++ ['.']))), ?_⟩
    simp only [writeCivil, writeTime, List.append_assoc, List.cons_append, List.nil_append]
  obtain ⟨s, hs⟩ := htext
  rw [hs] at h
  exact Text.isBlank_of_isDigit (Text.isDigit_getLast?_append hne hall h)

namespace Instant

variable {t : Instant}

/-- The internet format has the digits for what clocks show in a year of four digits. -/
theorem isWritable_toCivil (h : ofParts? t.seconds t.nanos = some t)
    (hyear : 0 ≤ t.toCivil.date.year ∧ t.toCivil.date.year ≤ 9999) : t.toCivil.IsWritable := by
  obtain ⟨-, hmonth, -, hday, -⟩ := Date.ofDayNumber_spec (t.seconds / 86400)
  have hlength := daysInMonth_le (isLeapYear t.toCivil.date.year) t.toCivil.date.month
  obtain ⟨hhour, hminute, hsecond, -⟩ := toCivil_spec h
  obtain ⟨hnanos, -, -⟩ := ofParts?_eq_some h
  exact
    { year := hyear
      month := Nat.lt_of_le_of_lt hmonth (by decide)
      day := Nat.lt_of_le_of_lt (hday.trans hlength) (by decide)
      hour := by omega
      minute := by omega
      second := by omega
      nanos := by
        simp only [toCivil]
        split <;> omega }

theorem toList_rfc3339Millis (hyear : 0 ≤ t.toCivil.date.year ∧ t.toCivil.date.year ≤ 9999) :
    t.rfc3339Millis.toList = writeCivil 'T' t.toCivil [] ++ ['Z'] := by
  simp only [rfc3339Millis, String.toList_ofList, writeSeconds, writeYear, hyear, and_self, if_true,
    writeCivil, writeDate, writeTime, List.append_assoc, List.cons_append, List.nil_append]

/-- A time that was written with three digits of a second is read as the instant, if the instant
has nothing below a millisecond and its year has four digits. -/
theorem ofRfc3339?_rfc3339Millis (h : ofParts? t.seconds t.nanos = some t)
    (hmilli : t.nanos % 1000000 = 0)
    (hyear : 0 ≤ t.toCivil.date.year ∧ t.toCivil.date.year ≤ 9999) :
    ofRfc3339? t.rfc3339Millis.toList = some t := by
  have hc := isWritable_toCivil h hyear
  have hwhole : t.toCivil.nanos % 1000000 = 0 := by
    simp only [toCivil]
    split <;> omega
  have hsame : t.toCivil.withDigits [] = t.toCivil := by
    have hlength : (padded 3 (t.toCivil.nanos / 1000000)).length = 3 :=
      Text.length_padded (by decide) (show _ < 1000 by have := hc.nanos; omega)
    rw [Civil.withDigits, List.append_nil, nanosOf,
      List.take_of_length_le (hlength.trans_le (by decide)), Text.digitsValue_padded, hlength,
      Nat.div_mul_cancel (Nat.dvd_of_mod_eq_zero hwhole)]
  rw [toList_rfc3339Millis hyear, ofRfc3339?_zoned hc (by decide) (List.forall_mem_nil _)
    .utc, hsame, Int.zero_mul, ofCivil?_toCivil h]

/-- There are no blanks around a written time. -/
theorem trim_rfc3339Millis (hyear : 0 ≤ t.toCivil.date.year ∧ t.toCivil.date.year ≤ 9999) :
    Text.trim t.rfc3339Millis = t.rfc3339Millis := by
  refine Text.trim_eq_self (fun c hc => ?_) fun c hc => ?_
  · rw [toList_rfc3339Millis hyear] at hc
    exact isBlank_head?_writeCivil hc
  · rw [toList_rfc3339Millis hyear, List.getLast?_concat, Option.mem_some_iff] at hc
    rw [← hc]
    decide

end Instant

end LogIntake.Time
