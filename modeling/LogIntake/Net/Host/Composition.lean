import LogIntake.Net.Host.Composite
import LogIntake.Net.Host.Mark

/-!
# Composed form

Texts that look the same may be written in several ways: with composite characters or with their
parts, and with marks of different classes in any order. The **composed form** of a text is the
one in which marks are sorted by their classes, and what can be composed is.

A syllable of Hangul consists of a lead, a vowel and perhaps a tail. The syllables are numbered by
their leads, then by their vowels, then by their tails.
-/

namespace LogIntake.Net.Host.Composition

/-! ### Hangul -/

namespace Hangul

/-- The first syllable. -/
def firstSyllable : Nat := 0xAC00

/-- The first lead. -/
def firstLead : Nat := 0x1100

/-- The first vowel. -/
def firstVowel : Nat := 0x1161

/-- What comes before the first tail. -/
def noTail : Nat := 0x11A7

/-- The number of leads. -/
def leads : Nat := 19

/-- The number of vowels. -/
def vowels : Nat := 21

/-- The number of tails, no tail included. -/
def tails : Nat := 28

/-- The place of a code point in a row that starts at `first` and has `size` members. -/
def place? (first size : Nat) (c : Char) : Option Nat :=
  if first ≤ c.toNat ∧ c.toNat < first + size then some (c.toNat - first) else none

/-- The place of a syllable among all of them. -/
def syllable? (c : Char) : Option Nat :=
  place? firstSyllable (leads * vowels * tails) c

/-- The parts of a syllable. -/
def parts? (c : Char) : Option (List Char) := do
  let n ← syllable? c
  let tail := if n % tails = 0 then [] else [Char.ofNat (noTail + n % tails)]
  pure (Char.ofNat (firstLead + n / tails / vowels) ::
    Char.ofNat (firstVowel + n / tails % vowels) :: tail)

/-- The syllable of a lead and a vowel. -/
def ofLead? (c d : Char) : Option Char := do
  let lead ← place? firstLead leads c
  let vowel ← place? firstVowel vowels d
  pure (Char.ofNat (firstSyllable + (lead * vowels + vowel) * tails))

/-- The syllable of one without a tail and a tail. -/
def ofOpen? (c d : Char) : Option Char := do
  let n ← syllable? c
  let tail ← place? noTail tails d
  if n % tails = 0 ∧ tail ≠ 0 then pure (Char.ofNat (c.toNat + tail)) else none

end Hangul

/-! ### Taking apart and putting together -/

/-- The parts of a character, which are the character itself if it has none. -/
def parts (c : Char) : List Char :=
  match Hangul.parts? c with
  | some ps => ps
  | none =>
    match composites.find? (·.1 = c) with
    | some (_, ps) => ps
    | none => [c]

/-- The composite of a character and one behind it. -/
def composite? (c d : Char) : Option Char :=
  let whole := parts c ++ [d]
  Hangul.ofLead? c d <|> Hangul.ofOpen? c d <|> (composites.find? (·.2 = whole)).map (·.1)

/-- A text with the marks behind each character sorted by their classes. Marks of one class stay
in their order. -/
def sorted (s : List Char) : List Char :=
  (s.splitBy fun _ d => combiningClass d ≠ 0).flatMap
    (·.mergeSort fun c d => combiningClass c ≤ combiningClass d)

/-- Composes what can be composed with a character `c` that has class zero. Marks behind it which
could not be composed are held back, last one first; they keep those of their class or a lower one
from it. -/
def composeFrom (c : Char) (held : List Char) : List Char → List Char
  | [] => c :: held.reverse
  | d :: rest =>
    let isFree := held.head?.all (combiningClass · < combiningClass d)
    match if isFree then composite? c d else none with
    | some e => composeFrom e held rest
    | none =>
      if combiningClass d = 0 then c :: held.reverse ++ composeFrom d [] rest
      else composeFrom c (d :: held) rest

/-- Composes what can be composed. Marks in front of the first character that is none have nothing
to be composed with. -/
def compose : List Char → List Char
  | [] => []
  | c :: rest => if combiningClass c = 0 then composeFrom c [] rest else c :: compose rest

/-- The composed form of a text. One of ASCII alone has it already. -/
def form (s : List Char) : List Char :=
  if s.all (·.toNat < 0x80) then s else compose (sorted (s.flatMap parts))

end LogIntake.Net.Host.Composition
