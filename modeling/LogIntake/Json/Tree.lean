import LogIntake.Json.Token
import LogIntake.Text.Utf8

/-!
# JSON trees

A **tree** is the shape of a JSON text as it was written: the members of an object are in their
order, a key may stand there twice, and numerals and strings are not looked into yet. Trees are
read token by token with a stack of the arrays and objects that are open, to any depth.

`Tree.value?` gives a tree its value, where it has one: at most `maxOpen` arrays and objects lie
inside one another, every numeral names a number, every string has a text, and of members with
one key the last counts. Whoever ignores a part of a text looks at its tree only, so what is
ignored need not have a value.
-/

namespace LogIntake.Json

/-- A JSON text as it was written. -/
inductive Tree where
  | null
  | bool (b : Bool)
  | numeral (n : Numeral)
  | text (units : List Nat)
  | arr (items : List Tree)
  | obj (members : List (List Nat × Tree))
  deriving Repr, Inhabited

/-- The number of arrays and objects that may lie inside one another in a value. -/
def maxOpen : Nat := 127

namespace Tree

/-! ### Values -/

mutual

/-- The value of a tree inside of which at most `room` arrays and objects are open at once. -/
def valueIn? (room : Nat) : Tree → Option Json
  | .null => some .null
  | .bool b => some (.bool b)
  | .numeral n => n.value?
  | .text units => (unitsText? units).map .str
  | .arr items =>
    match room with
    | 0 => none
    | room + 1 => (itemValues? room items).map .arr
  | .obj members =>
    match room with
    | 0 => none
    | room + 1 => (memberValues? room members).map fun fs => .obj (Fields.ofList fs)

/-- The values of the items of an array. -/
def itemValues? (room : Nat) : List Tree → Option (List Json)
  | [] => some []
  | t :: ts => do
    let v ← valueIn? room t
    let vs ← itemValues? room ts
    pure (v :: vs)

/-- The keys and values of the members of an object, in the order of the text. -/
def memberValues? (room : Nat) : List (List Nat × Tree) → Option (List (String × Json))
  | [] => some []
  | (k, t) :: ts => do
    let k ← unitsText? k
    let v ← valueIn? room t
    let vs ← memberValues? room ts
    pure ((k, v) :: vs)

end

/-- The value of a tree. -/
def value? (t : Tree) : Option Json :=
  t.valueIn? maxOpen

/-! ### Parts -/

/-- The text of a string. -/
def text? : Tree → Option String
  | .text units => unitsText? units
  | _ => none

/-- The members of an object under a key; `none` when a key of the object has no text. -/
def membersAt? (members : List (List Nat × Tree)) (key : String) : Option (List Tree) :=
  members.foldr (fun m found => do
    let k ← unitsText? m.1
    let ts ← found
    pure (if k = key then m.2 :: ts else ts)) (some [])

/-- The only member of an object under a key. -/
def onlyMember? (members : List (List Nat × Tree)) (key : String) : Option Tree := do
  match ← membersAt? members key with
  | [t] => pure t
  | _ => none

/-! ### Reading -/

/-- An open array with its items or an open object with its members, last first. -/
inductive Frame where
  | items (rev : List Tree)
  | members (rev : List (List Nat × Tree))

/-- What may come next. -/
inductive Expect where
  | value
  /-- After an opening bracket: an item or the closing bracket. -/
  | firstItem
  /-- After an opening brace: a key or the closing brace. -/
  | firstKey
  | key
  | colon (key : List Nat)
  /-- The value of a key. -/
  | memberValue (key : List Nat)
  /-- After an item or member: a comma, or the end of the array or object. -/
  | next
  /-- Nothing: the text is complete. -/
  | done (t : Tree)

/-- A reader: the open arrays and objects, innermost first, each with the key it is the value of
in the object around it, and what may come next. -/
structure Reader where
  stack : List (Frame × Option (List Nat)) := []
  expect : Expect := .value

namespace Reader

/-- Puts a complete tree where it belongs: into the innermost open array, or into the innermost
open object under its key, or at the top. -/
def put? (stack : List (Frame × Option (List Nat))) (key : Option (List Nat)) (t : Tree) :
    Option Reader :=
  match stack, key with
  | [], _ => some ⟨[], .done t⟩
  | (.items rev, k) :: rest, _ => some ⟨(.items (t :: rev), k) :: rest, .next⟩
  | (.members rev, k) :: rest, some key =>
    some ⟨(.members ((key, t) :: rev), k) :: rest, .next⟩
  | (.members _, _) :: _, none => none

/-- Starts a tree with its first token. -/
def begin? (r : Reader) (key : Option (List Nat)) : Token → Option Reader
  | .openBrace => some ⟨(.members [], key) :: r.stack, .firstKey⟩
  | .openBracket => some ⟨(.items [], key) :: r.stack, .firstItem⟩
  | .text units => put? r.stack key (.text units)
  | .numeral n => put? r.stack key (.numeral n)
  | .null => put? r.stack key .null
  | .bool b => put? r.stack key (.bool b)
  | _ => none

/-- Closes the innermost array. -/
def closeItems? (r : Reader) : Option Reader :=
  match r.stack with
  | (.items rev, key) :: rest => put? rest key (.arr rev.reverse)
  | _ => none

/-- Closes the innermost object. -/
def closeMembers? (r : Reader) : Option Reader :=
  match r.stack with
  | (.members rev, key) :: rest => put? rest key (.obj rev.reverse)
  | _ => none

/-- What follows a comma in the innermost array or object. -/
def afterComma? (r : Reader) : Option Reader :=
  match r.stack with
  | (.items _, _) :: _ => some { r with expect := .value }
  | (.members _, _) :: _ => some { r with expect := .key }
  | [] => none

/-- Reads one token. -/
def step? (r : Reader) (t : Token) : Option Reader :=
  match r.expect, t with
  | .value, t => r.begin? none t
  | .memberValue key, t => r.begin? (some key) t
  | .firstItem, .closeBracket => r.closeItems?
  | .firstItem, t => r.begin? none t
  | .firstKey, .closeBrace => r.closeMembers?
  | .firstKey, .text k => some { r with expect := .colon k }
  | .key, .text k => some { r with expect := .colon k }
  | .colon k, .colon => some { r with expect := .memberValue k }
  | .next, .comma => r.afterComma?
  | .next, .closeBracket => r.closeItems?
  | .next, .closeBrace => r.closeMembers?
  | _, _ => none

end Reader

/-- The tree of a sequence of tokens. -/
def ofTokens? (tokens : List Token) : Option Tree := do
  let r ← tokens.foldlM Reader.step? {}
  match r.expect with
  | .done t => some t
  | _ => none

/-- The tree of a JSON text; `none` when it is none. -/
def ofText? (text : String) : Option Tree := do
  let tokens ← Token.scan text.toList
  ofTokens? tokens

/-- The tree of a JSON text in UTF-8; `none` when it is none. -/
def ofBytes? (bytes : List UInt8) : Option Tree := do
  let text ← Text.Utf8.decode? bytes
  ofText? text

end Tree

/-- The value of a JSON text; `none` when it has none. -/
def ofText? (text : String) : Option Json := do
  let t ← Tree.ofText? text
  t.value?

/-- The value of a JSON text in UTF-8; `none` when it has none. -/
def ofBytes? (bytes : List UInt8) : Option Json := do
  let t ← Tree.ofBytes? bytes
  t.value?

end LogIntake.Json
