/-!
# Blank characters

The **blank characters** are those with the Unicode property White_Space. Trimming a text
removes them from one end or from both; a text is **blank** when nothing else is in it. Lines
of a request body are trimmed of ASCII blanks only, before anything is decoded.
-/

namespace LogIntake.Text

/-- The code points with the property White_Space, as inclusive ranges in increasing order. -/
def blankRanges : List (Nat × Nat) :=
  [(0x09, 0x0D), (0x20, 0x20), (0x85, 0x85), (0xA0, 0xA0), (0x1680, 0x1680),
   (0x2000, 0x200A), (0x2028, 0x2029), (0x202F, 0x202F), (0x205F, 0x205F), (0x3000, 0x3000)]

/-- Whether a character has the property White_Space. -/
def isBlank (c : Char) : Bool :=
  blankRanges.any fun r => r.1 ≤ c.toNat && c.toNat ≤ r.2

/-- A list without its longest leading run of elements that satisfy `p`. -/
def dropLeading {α : Type} (p : α → Bool) (xs : List α) : List α :=
  xs.dropWhile p

/-- A list without its longest trailing run of elements that satisfy `p`. -/
def dropTrailing {α : Type} (p : α → Bool) (xs : List α) : List α :=
  (xs.reverse.dropWhile p).reverse

/-- A list without its leading and trailing runs of elements that satisfy `p`. -/
def dropAround {α : Type} (p : α → Bool) (xs : List α) : List α :=
  dropTrailing p (dropLeading p xs)

/-- A text without the blank characters at its start. -/
def trimStart (s : List Char) : List Char :=
  dropLeading isBlank s

/-- A text without the blank characters at both ends. -/
def trim (s : String) : String :=
  String.ofList (dropAround isBlank s.toList)

/-- Whether a text has no character other than blank ones. -/
def isBlankText (s : String) : Bool :=
  s.toList.all isBlank

/-- A text without the carriage returns and line feeds at its end. -/
def trimLineEnd (s : String) : String :=
  String.ofList (dropTrailing (fun c => c == '\n' || c == '\r') s.toList)

/-- The ASCII blanks: space, tab, line feed, form feed and carriage return, but not the
vertical tab. -/
def isAsciiBlank (b : UInt8) : Bool :=
  b == 0x20 || b == 0x09 || b == 0x0A || b == 0x0C || b == 0x0D

/-- A line of bytes without the ASCII blanks at both ends. -/
def trimAscii (bytes : List UInt8) : List UInt8 :=
  dropAround isAsciiBlank bytes

end LogIntake.Text
