import LogIntake.Net.Host.Composition
import LogIntake.Net.Host.Direction
import LogIntake.Net.Host.Folding
import LogIntake.Net.Host.Joining
import LogIntake.Net.Host.Permitted
import LogIntake.Net.Host.Punycode

/-!
# Host names

A host name consists of **labels** with points between them. It may be written in any script, and
has one form in ASCII, in which servers are looked up: characters that stand for others are
**folded** into these, the rest is composed, and each label that is not ASCII is written in
Punycode behind a tag. A label that bears the tag already must stand for one that folding and
composing leave as it is.

Some ASCII characters, which have a meaning in URLs, may not stand in a name. A label may not begin
with a mark, joiners must have their places, and writing from right to left must not mix labels up.
-/

namespace LogIntake.Net.Host.Name

/-- Whether a character is one of ASCII. -/
def isAscii (c : Char) : Bool :=
  c.toNat < 0x80

/-- Whether an ASCII character may not stand in a name. -/
def isForbidden (c : Char) : Bool :=
  c.toNat ≤ 0x20 || c.toNat = 0x7F || "%#/:<>?@[\\]^|".toList.contains c

/-- What stands in the place of a character; `none` for one that may not be written. -/
def folded? (c : Char) : Option (List Char) :=
  if isAscii c then some [c.toLower]
  else if !permitted.contains c then none
  else if ignored.contains c then some []
  else some ((foldings.text? c).getD [c])

/-- Whether folding and composing leave a label as it is. -/
def isSettled (label : List Char) : Bool :=
  label.all (fun c => folded? c = some [c]) && Composition.form label = label

/-! ### Labels -/

/-- What a label in Punycode begins with. -/
def punycodeTag : List Char := "xn--".toList

/-- The greatest length of the Punycode that is read. -/
def maxPunycode : Nat := 2000

/-- The greatest length of a label that is written in Punycode. -/
def maxLabel : Nat := 1000

/-- A label in its own script. Punycode must be good for something: there must be a character that
is not ASCII. -/
def ownScript? (label : List Char) : Option (List Char) :=
  if punycodeTag.isPrefixOf label then do
    let code := label.drop punycodeTag.length
    let isUseful := code.getLast?.any (· ≠ '-') && code.length ≤ maxPunycode
    let own ← if isUseful && code.all isAscii then Punycode.decode? code else none
    if isSettled own then pure own else none
  else some label

/-- Whether a label in its own script may be part of a name by itself. -/
def isLabel (own : List Char) : Bool :=
  !own.any isForbidden && !own.head?.any isMark && Joining.areFit [] own &&
    (own.all isAscii || own.length ≤ maxLabel)

/-- A label in ASCII. -/
def written (label : List Char) : List Char :=
  if label.all isAscii then label else punycodeTag ++ Punycode.encode label

/-! ### Names -/

/-- Whether the labels of a name keep their order on display. -/
def areOrderly (labels : List (List Char)) : Bool :=
  let directions := labels.map (·.map Direction.ofChar)
  !directions.any (·.any (·.isRightward)) || directions.all Direction.isOrderly

/-- The parts of a text between points. -/
def split (s : List Char) : List (List Char) :=
  s.splitOn '.'

/-- The form in ASCII of a name; `none` for what is none. -/
def ascii? (name : List Char) : Option (List Char) := do
  let labels := split (Composition.form ((← name.mapM folded?).flatten))
  let own ← labels.mapM ownScript?
  if own.all isLabel && areOrderly own then
    pure (List.intercalate ['.'] (labels.map written))
  else none

end LogIntake.Net.Host.Name
