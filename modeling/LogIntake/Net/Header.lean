/-!
# Header fields

Which texts can be the method of a request, the name of one of its header fields, and the value
of one. Methods and names are **tokens** of letters, digits and a few signs. A value may hold
any character but control characters, of which only the tab is allowed.
-/

namespace LogIntake.Net.Header

/-- Whether a character may stand in a token. -/
def isTokenChar (c : Char) : Bool :=
  c.isAlphanum || "!#$%&'*+-.^_\x60|~".toList.contains c

/-- Whether a text is a token. -/
def isToken (s : String) : Bool :=
  !s.isEmpty && s.toList.all isTokenChar

/-- Whether a character may stand in a value. -/
def isValueChar (c : Char) : Bool :=
  c = '\t' || (0x20 ≤ c.toNat && c.toNat ≠ 0x7F)

/-- Whether a text is a value. -/
def isValue (s : String) : Bool :=
  s.toList.all isValueChar

end LogIntake.Net.Header
