import LogIntake.Time.Instant
import LogIntake.Text.Blank
import LogIntake.Text.Digits

/-!
# Written times

Three ways of reading a time are kept apart. `Instant.ofRfc3339?` takes the internet format with
fields of fixed width and a mandatory offset from UTC. `Instant.ofLocal?` takes a date and time
without an offset as UTC: fields may be short and blanks may stand before them. The **lenient**
reader `Instant.ofLenient?`, for times that this library wrote itself, takes short fields and
blanks as well, and an offset.

`Instant.rfc3339` writes an instant in UTC with the fewest of 0, 3, 6 or 9 digits of a second
that are exact, and `Instant.rfc3339Millis` always with 3.
-/

namespace LogIntake.Time

open LogIntake.Text (isBlank trimStart digitsValue padded)

/-! ### Fields -/

/-- Reads as many digits as there are, at least `low` and at most `high`. -/
def number? (low high : Nat) (s : List Char) : Option (Nat × List Char) :=
  let ds := (s.take high).takeWhile Char.isDigit
  if ds.length < low then none else some (digitsValue ds, s.drop ds.length)

/-- Reads one given character. -/
def char? (c : Char) : List Char → Option (List Char)
  | d :: r => if d = c then some r else none
  | [] => none

/-- Reads nothing, or a point and at least one digit, as nanoseconds; digits after the ninth
are left out. -/
def fraction? : List Char → Option (Nat × List Char)
  | '.' :: r =>
    let ds := r.takeWhile Char.isDigit
    if ds.isEmpty then none
    else
      let kept := ds.take 9
      some (digitsValue kept * Nat.pow 10 (9 - kept.length), r.drop ds.length)
  | s => some (0, s)

/-- Reads the sign of an offset: plus, minus or U+2212. -/
def offsetSign? : List Char → Option (Int × List Char)
  | '+' :: r => some (1, r)
  | '-' :: r => some (-1, r)
  | '\u2212' :: r => some (-1, r)
  | _ => none

/-- Reads an offset in seconds, `Z` or a sign with hours and minutes of two digits each, after
passing what stands between the two with `separator?`. Offsets are shorter than a day. -/
def offset? (separator? : List Char → Option (List Char)) (s : List Char) :
    Option (Int × List Char) :=
  match s with
  | 'Z' :: r | 'z' :: r => some (0, r)
  | s => do
    let (sign, s) ← offsetSign? s
    let (hours, s) ← number? 2 2 s
    let s ← separator? s
    let (minutes, s) ← number? 2 2 s
    if minutes < 60 ∧ hours < 24 then
      some (sign * (hours * 3600 + minutes * 60 : Nat), s)
    else none

/-! ### The internet format -/

/-- Reads the mark between date and time. -/
def mark? : List Char → Option (List Char)
  | 'T' :: r | 't' :: r | ' ' :: r => some r
  | _ => none

/-- Reads a time in the internet format: fields of fixed width and an offset, to the end. -/
def Instant.ofRfc3339? (s : List Char) : Option Instant := do
  let (year, s) ← number? 4 4 s
  let s ← char? '-' s
  let (month, s) ← number? 2 2 s
  let s ← char? '-' s
  let (day, s) ← number? 2 2 s
  let s ← mark? s
  let (hour, s) ← number? 2 2 s
  let s ← char? ':' s
  let (minute, s) ← number? 2 2 s
  let s ← char? ':' s
  let (second, s) ← number? 2 2 s
  let (nanos, s) ← fraction? s
  let (offset, s) ← offset? (char? ':') s
  if s.isEmpty then Instant.ofCivil? ⟨⟨year, month, day⟩, hour, minute, second, nanos⟩ offset
  else none

/-! ### Short fields -/

/-- Reads a year after blanks: up to four digits, or a sign and any number of digits. -/
def shortYear? (s : List Char) : Option (Int × List Char) :=
  match trimStart s with
  | '-' :: r => (number? 1 r.length r).map fun (n, r) => (-(n : Int), r)
  | '+' :: r => (number? 1 r.length r).map fun (n, r) => ((n : Int), r)
  | s => (number? 1 4 s).map fun (n, r) => ((n : Int), r)

/-- Reads one or two digits after blanks. -/
def short? (s : List Char) : Option (Nat × List Char) :=
  number? 1 2 (trimStart s)

/-- Reads a date of short fields, passing `gap` before each hyphen. -/
def shortDate? (gap : List Char → List Char) (s : List Char) : Option (Date × List Char) := do
  let (year, s) ← shortYear? s
  let s ← char? '-' (gap s)
  let (month, s) ← short? s
  let s ← char? '-' (gap s)
  let (day, s) ← short? s
  pure (⟨year, month, day⟩, s)

/-- Reads a time of day of short fields, passing `gap` before each colon. -/
def shortTime? (gap : List Char → List Char) (date : Date) (s : List Char) :
    Option (Civil × List Char) := do
  let (hour, s) ← short? s
  let s ← char? ':' (gap s)
  let (minute, s) ← short? s
  let s ← char? ':' (gap s)
  let (second, s) ← short? s
  let (nanos, s) ← fraction? s
  pure (⟨date, hour, minute, second, nanos⟩, s)

/-- Reads a date and time without an offset, to the end, after passing what stands between the
two with `between?`. -/
def Instant.ofLocalWith? (between? : List Char → Option (List Char)) (s : List Char) :
    Option Instant := do
  let (date, s) ← shortDate? id s
  let s ← between? s
  let (civil, s) ← shortTime? id date s
  if s.isEmpty then Instant.ofCivil? civil 0 else none

/-- Reads a date and time without an offset as UTC, with the letter `T` or blanks between the
two. -/
def Instant.ofLocal? (s : List Char) : Option Instant :=
  ofLocalWith? (char? 'T') s <|> ofLocalWith? (fun s => some (trimStart s)) s

/-- Reads an offset of the lenient format: `UTC` in any case, or an offset with any run of
colons and blanks between hours and minutes. -/
def lenientOffset? (s : List Char) : Option (Int × List Char) :=
  if (s.take 3).map Char.toUpper = ['U', 'T', 'C'] then some (0, s.drop 3)
  else offset? (fun s => some (s.dropWhile fun c => c = ':' || isBlank c)) s

/-- Reads a time in the lenient format, to the end. -/
def Instant.ofLenient? (s : List Char) : Option Instant := do
  let (date, s) ← shortDate? trimStart s
  let s ← mark? s
  let (civil, s) ← shortTime? trimStart date s
  let (offset, s) ← lenientOffset? (trimStart s)
  if (trimStart s).isEmpty then Instant.ofCivil? civil offset else none

/-! ### Writing -/

/-- A year: four digits, or a sign and at least four where it is negative or has more. -/
def writeYear (y : Int) : List Char :=
  if 0 ≤ y ∧ y ≤ 9999 then padded 4 y.toNat
  else (if y < 0 then '-' else '+') :: padded 4 y.natAbs

/-- Date and time up to the second. -/
def writeSeconds (c : Civil) : List Char :=
  writeYear c.date.year ++ '-' :: padded 2 c.date.month ++ '-' :: padded 2 c.date.day ++
    'T' :: padded 2 c.hour ++ ':' :: padded 2 c.minute ++ ':' :: padded 2 c.second

/-- The fewest of 0, 3, 6 or 9 digits that give nanoseconds exactly, after a point. -/
def writeFraction (nanos : Nat) : List Char :=
  if nanos = 0 then []
  else if nanos % 1000000 = 0 then '.' :: padded 3 (nanos / 1000000)
  else if nanos % 1000 = 0 then '.' :: padded 6 (nanos / 1000)
  else '.' :: padded 9 nanos

/-- An instant in UTC with an exact fraction. -/
def Instant.rfc3339 (t : Instant) : String :=
  let c := t.toCivil
  String.ofList (writeSeconds c ++ writeFraction c.nanos ++ ['Z'])

/-- An instant in UTC with three digits of a second. -/
def Instant.rfc3339Millis (t : Instant) : String :=
  let c := t.toCivil
  String.ofList (writeSeconds c ++ '.' :: padded 3 (c.nanos / 1000000) ++ ['Z'])

end LogIntake.Time
