import LogIntake.Text.Ranges

/-!
# URIs

Which texts can be the address of a server: an **authority** alone (a host with an optional user
before it and an optional port after it), an absolute path alone, or a **scheme** with `://`, an
authority and a path. In the authority brackets come as one pair, which may hold colons; outside
of it one colon may stand behind the user. A percent sign may stand in the user only. A path and
a query may hold all but a few characters, and what follows a number sign is not looked at.
-/

namespace LogIntake.Net.Uri

/-- The greatest length of a URI, in bytes. -/
def maxLength : Nat := 65534

/-- The greatest length of a scheme. -/
def maxSchemeLength : Nat := 64

/-- Whether a character may stand in a scheme. -/
def isSchemeChar (c : Char) : Bool :=
  c.isAlphanum || c = '+' || c = '-' || c = '.' || c = '~'

/-- Whether a character may stand in an authority by itself. -/
def isAuthorityChar (c : Char) : Bool :=
  c.isAlphanum || "!$&'()*+,-.;=_~".toList.contains c

/-- The greatest code point, which ends the ranges that have no other end. -/
def maxCodePoint : Nat := 0x10FFFF

/-- The characters that may stand in a path. A space or control character may not, nor may an
angle bracket, a grave accent or what ends a path. -/
def pathChars : Text.Ranges :=
  [⟨0x21, 0x22⟩, ⟨0x24, 0x3B⟩, ⟨0x3D, 0x3D⟩, ⟨0x40, 0x5F⟩, ⟨0x61, 0x7E⟩, ⟨0x80, maxCodePoint⟩]

/-- The characters that may stand in a query. -/
def queryChars : Text.Ranges :=
  [⟨0x21, 0x21⟩, ⟨0x24, 0x3B⟩, ⟨0x3D, 0x3D⟩, ⟨0x3F, 0x7E⟩, ⟨0x80, maxCodePoint⟩]

/-! ### Authority -/

/-- What has been read of an authority. -/
structure Authority where
  /-- The number of colons outside of brackets and behind the user. -/
  colons : Nat := 0
  opened : Bool := false
  closed : Bool := false
  /-- Whether there is a percent sign that does not belong to the user. -/
  percent : Bool := false
  /-- Whether the last character ends the user. -/
  bareUser : Bool := false

namespace Authority

/-- The greatest number of colons that are read in a row of groups. -/
def maxColons : Nat := 8

/-- Reads a character. -/
def read? (a : Authority) (c : Char) : Option Authority :=
  let b := { a with bareUser := false }
  if c = ':' then if a.colons < maxColons then some { b with colons := a.colons + 1 } else none
  else if c = '[' then if a.percent || a.opened then none else some { b with opened := true }
  else if c = ']' then
    if !a.opened || a.closed then none
    else some { b with closed := true, colons := 0, percent := false }
  else if c = '@' then some { b with colons := 0, percent := false, bareUser := true }
  else if c = '%' then some { b with percent := true }
  else if isAuthorityChar c then some b
  else none

/-- Whether an authority may end here. -/
def isComplete (a : Authority) : Bool :=
  a.opened == a.closed && a.colons ≤ 1 && !a.percent && !a.bareUser

/-- Reads an authority up to a path, a query or a fragment, and gives what is left. -/
def readAll? (a : Authority) : List Char → Option (List Char)
  | [] => if a.isComplete then some [] else none
  | c :: rest =>
    if c = '/' ∨ c = '?' ∨ c = '#' then if a.isComplete then some (c :: rest) else none
    else
      match a.read? c with
      | some a => readAll? a rest
      | none => none

end Authority

/-! ### The whole -/

/-- What is left behind a scheme and its `://`, if the text starts with them; a scheme that is
too long is refused with `none`. -/
def afterScheme? (s : List Char) : Option (Option (List Char)) :=
  let scheme := s.takeWhile isSchemeChar
  match s.drop scheme.length with
  | ':' :: '/' :: '/' :: rest =>
    if s.length ≤ 3 then some none
    else if scheme.length ≤ maxSchemeLength then some (some rest)
    else none
  | _ => some none

/-- Whether a text is a query and a fragment. -/
def isQuery : List Char → Bool
  | [] => true
  | c :: rest => c = '#' || (queryChars.contains c && isQuery rest)

/-- Whether a text is a path with its query and fragment. -/
def isPath : List Char → Bool
  | [] => true
  | c :: rest => c = '#' || if c = '?' then isQuery rest else pathChars.contains c && isPath rest

/-- Whether a text is an authority alone. -/
def isAuthority (s : List Char) : Bool :=
  !s.isEmpty && Authority.readAll? {} s == some []

/-- Whether a text is an authority, which is not empty, and a path. -/
def isPlace (s : List Char) : Bool :=
  match Authority.readAll? {} s with
  | some rest => rest.length < s.length && isPath rest
  | none => false

/-- Whether a text is a URI. -/
def isValid (text : String) : Bool :=
  if text.utf8ByteSize > maxLength then false
  else
    match text.toList with
    | ['*'] => true
    | '/' :: rest => isPath rest
    | s =>
      match afterScheme? s with
      | some (some rest) => isPlace rest
      | some none => isAuthority s
      | none => false

/-! ### Paths -/

/-- A text up to a query or a fragment. -/
def beforeQuery (s : List Char) : String :=
  String.ofList (s.takeWhile fun c => c ≠ '?' && c ≠ '#')

/-- The path of a URI, which is empty where there is only an authority, and a slash where there is
a scheme and nothing behind the authority; `none` for a text that is no URI. -/
def path? (text : String) : Option String :=
  if isValid text then
    match text.toList with
    | ['*'] => some "*"
    | '/' :: rest => some (beforeQuery ('/' :: rest))
    | s =>
      match afterScheme? s with
      | some (some rest) =>
        let path := beforeQuery ((Authority.readAll? {} rest).getD [])
        some (if path.isEmpty then "/" else path)
      | _ => some ""
  else none

end LogIntake.Net.Uri
