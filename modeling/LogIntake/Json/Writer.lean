import LogIntake.Json.Value

/-!
# Writing JSON texts

A value is written without spaces, its fields in the order in which they stand. In strings the
quotation mark, the backslash and control characters are escaped, and nothing else.
-/

namespace LogIntake.Json

/-- The lower-case hexadecimal digit of a number below sixteen. -/
def hexChar (n : Nat) : Char :=
  if n < 10 then Char.ofNat (48 + n) else Char.ofNat (87 + n)

/-- The lower-case hexadecimal digits of a number, `width` of them. -/
def hexDigits : (width : Nat) → Nat → List Char
  | 0, _ => []
  | width + 1, n => hexDigits width (n / 16) ++ [hexChar (n % 16)]

/-- How a character is written in a string. -/
def escapeChar (c : Char) : List Char :=
  if c = '"' then ['\\', '"']
  else if c = '\\' then ['\\', '\\']
  else if c = '\x08' then ['\\', 'b']
  else if c = '\t' then ['\\', 't']
  else if c = '\n' then ['\\', 'n']
  else if c = '\x0c' then ['\\', 'f']
  else if c = '\r' then ['\\', 'r']
  else if c.toNat < 0x20 then '\\' :: 'u' :: hexDigits 4 c.toNat
  else [c]

/-- A text as a JSON string. -/
def quote (s : String) : List Char :=
  '"' :: s.toList.flatMap escapeChar ++ ['"']

/-- The decimal digits of a double, which JSON writes as null when it is no number. A whole
number keeps a zero after the point, so that it reads back as a double. -/
def writeDouble (x : Number.Double) : List Char :=
  match x.magnitude with
  | .finite _ _ =>
    let digits := (Number.Format.binary64.print x.bits.toNat).toList
    if digits.contains '.' then digits else digits ++ ['.', '0']
  | _ => "null".toList

mutual

/-- A value as a JSON text. -/
def write : Json → List Char
  | .null => "null".toList
  | .bool true => "true".toList
  | .bool false => "false".toList
  | .int n => (toString n).toList
  | .float x => writeDouble x
  | .str s => quote s
  | .arr items => '[' :: writeItems items ++ [']']
  | .obj fields => '\x7b' :: writeFields fields ++ ['\x7d']

/-- Items with commas between them. -/
def writeItems : List Json → List Char
  | [] => []
  | [v] => write v
  | v :: w :: rest => write v ++ ',' :: writeItems (w :: rest)

/-- Fields with commas between them. -/
def writeFields : List (String × Json) → List Char
  | [] => []
  | [(k, v)] => quote k ++ ':' :: write v
  | (k, v) :: f :: rest => quote k ++ ':' :: write v ++ ',' :: writeFields (f :: rest)

end

/-- A value as a JSON text. -/
def render (v : Json) : String :=
  String.ofList v.write

end LogIntake.Json
