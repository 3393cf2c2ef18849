import LogIntake.Text.Ranges

/-!
# Replacements of characters

A table says which characters stand for which texts. It is written range by range: `41-5A>61`
moves the range to the one that starts at 61, `100-12E/` puts the character that follows in the
place of the first and of every second one after it, and `BC>31.34,32` gives texts to the
characters from BC on, one each, with points between the characters of a text.
-/

namespace LogIntake.Text

/-- How the characters of a range are replaced. -/
inductive Replacement where
  /-- Each is replaced by the one at the same distance from `target`. -/
  | moved (target : Nat)
  /-- The first one and every second one after it are replaced by the one that follows. -/
  | paired
  /-- Each has a text of its own. -/
  | listed (texts : List (List Char))
  deriving DecidableEq, Repr

namespace Replacement

/-- What stands in the place of a character, of which the place in its range is given. -/
def text? (r : Replacement) (place : Nat) (c : Char) : Option (List Char) :=
  match r with
  | .moved target => some [Char.ofNat (target + place)]
  | .paired => if place % 2 = 0 then some [Char.ofNat (c.toNat + 1)] else none
  | .listed texts => texts[place]?

end Replacement

/-- Ranges of characters in increasing order with what replaces them. -/
abbrev Replacements := List (Range × Replacement)

namespace Replacements

/-- The characters whose code points are written with points between them. -/
def charsOf (s : String) : List Char :=
  (s.splitOn ".").map fun code => Char.ofNat (hexValue code)

/-- One entry of a table. -/
def entry (s : String) : Range × Replacement :=
  match s.splitOn ">" with
  | [chars, texts] =>
    let r := Range.ofText chars
    if r.first < r.last then (r, .moved (hexValue texts))
    else
      let listed := (texts.splitOn ",").map charsOf
      (⟨r.first, r.first + listed.length - 1⟩, .listed listed)
  | _ => (Range.ofText ((s.splitOn "/").headD ""), .paired)

/-- The table that is written in lines, with blanks between its entries. -/
def ofLines (lines : List String) : Replacements :=
  lines.flatMap fun line => (line.splitOn " ").map entry

/-- What stands in the place of a character, if the table has it. -/
def text? (t : Replacements) (c : Char) : Option (List Char) :=
  match t.find? (c.toNat ≤ ·.1.last) with
  | some (r, how) => if r.contains c then how.text? (c.toNat - r.first) c else none
  | none => none

/-- The characters of the listed entries with their texts. -/
def listed (t : Replacements) : List (Char × List Char) :=
  t.flatMap fun e =>
    match e.2 with
    | .listed texts => texts.mapIdx fun i text => (Char.ofNat (e.1.first + i), text)
    | _ => []

end Replacements

end LogIntake.Text
