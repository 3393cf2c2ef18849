/-!
# Ranges of characters

Large sets of characters are given by the **ranges** of their code points, in increasing order.
A range is written as its ends in hexadecimal with a dash between them, or as one code point.
-/

namespace LogIntake.Text

/-- The code points from a first one to a last one, both included. -/
structure Range where
  first : Nat
  last : Nat
  deriving DecidableEq, Repr

/-- The value of a hexadecimal digit. -/
def hexDigitValue (c : Char) : Nat :=
  if c ≤ '9' then c.toNat - 48 else c.toNat - 55

/-- The value of hexadecimal digits with capital letters. -/
def hexValue (s : String) : Nat :=
  s.toList.foldl (fun n c => n * 16 + hexDigitValue c) 0

namespace Range

/-- The range that is written as a text. -/
def ofText (s : String) : Range :=
  match s.splitOn "-" with
  | [first, last] => ⟨hexValue first, hexValue last⟩
  | _ => ⟨hexValue s, hexValue s⟩

/-- Whether a character lies in a range. -/
def contains (r : Range) (c : Char) : Bool :=
  r.first ≤ c.toNat && c.toNat ≤ r.last

end Range

/-- Ranges in increasing order, none of which meets another. -/
abbrev Ranges := List Range

namespace Ranges

/-- The ranges that are written in lines, with blanks between them. -/
def ofLines (lines : List String) : Ranges :=
  lines.flatMap fun line => (line.splitOn " ").map Range.ofText

/-- Whether a character lies in one of some ranges. Only the first range that does not end before
the character can hold it. -/
def contains (rs : Ranges) (c : Char) : Bool :=
  match rs.find? (c.toNat ≤ ·.last) with
  | some r => r.contains c
  | none => false

end Ranges

end LogIntake.Text
