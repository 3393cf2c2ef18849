import LogIntake.Json.Numeral

/-!
# JSON tokens

A JSON text is a sequence of **tokens**: punctuation, words (`null`, `true`, `false` and
numerals) and quoted strings, with spaces, tabs and line ends between them. `Token.scan` reads
one character at a time, and its state says what it is inside of. A word is the longest run of
letters, digits, signs and points, so two words never touch.

A string is kept as the **units** that were written: a unit is the code point of a character or
the value of a `\u` escape. Only escapes give surrogates, so two surrogates stand side by side
only where two escapes did, and `unitsText?` joins high and low ones to characters. A string
with a surrogate that stands alone is a token, but has no text.
-/

namespace LogIntake.Json

/-- A token of a JSON text. -/
inductive Token where
  | openBrace
  | closeBrace
  | openBracket
  | closeBracket
  | comma
  | colon
  /-- A string, as units. -/
  | text (units : List Nat)
  | numeral (n : Numeral)
  | null
  | bool (b : Bool)
  deriving DecidableEq, Repr

/-- Whether a unit is the first of a pair of surrogates. -/
def isHighSurrogate (u : Nat) : Bool :=
  0xD800 ≤ u && u < 0xDC00

/-- Whether a unit is the second of a pair of surrogates. -/
def isLowSurrogate (u : Nat) : Bool :=
  0xDC00 ≤ u && u < 0xE000

/-- The characters of a string's units after a high surrogate, if one is waiting for its low
one; `none` where a surrogate stands alone. -/
def unitsChars? : (high : Option Nat) → List Nat → Option (List Char)
  | none, [] => some []
  | some _, [] => none
  | none, u :: rest =>
    if isHighSurrogate u then unitsChars? (some u) rest
    else if isLowSurrogate u then none
    else (unitsChars? none rest).map (Char.ofNat u :: ·)
  | some h, u :: rest =>
    if isLowSurrogate u then
      (unitsChars? none rest).map
        (Char.ofNat (0x10000 + (h - 0xD800) * 0x400 + (u - 0xDC00)) :: ·)
    else none

/-- The text of a string's units; `none` where a surrogate stands alone. -/
def unitsText? (units : List Nat) : Option String :=
  (unitsChars? none units).map String.ofList

namespace Token

/-- What a scanner is inside of. The characters or units read so far come last first. -/
inductive Mode where
  | between
  | word (chars : List Char)
  | text (units : List Nat)
  /-- After a backslash in a string. -/
  | escape (units : List Nat)
  /-- In a `\u` escape with `left` digits to come. -/
  | unicode (units : List Nat) (left value : Nat)

/-- A scanner: its mode and the tokens it has read, last first. -/
structure Scanner where
  mode : Mode := .between
  tokens : List Token := []

/-- The value of a hexadecimal digit. -/
def hexDigit? (c : Char) : Option Nat :=
  if '0' ≤ c ∧ c ≤ '9' then some (c.toNat - 48)
  else if 'a' ≤ c ∧ c ≤ 'f' then some (c.toNat - 87)
  else if 'A' ≤ c ∧ c ≤ 'F' then some (c.toNat - 55)
  else none

/-- Whether a character may stand in a word. -/
def isWordChar (c : Char) : Bool :=
  c.isAlphanum || c == '+' || c == '-' || c == '.'

/-- The character that a one-letter escape stands for. -/
def escaped? : Char → Option Char
  | '"' => some '"'
  | '\\' => some '\\'
  | '/' => some '/'
  | 'b' => some '\x08'
  | 'f' => some '\x0c'
  | 'n' => some '\n'
  | 'r' => some '\r'
  | 't' => some '\t'
  | _ => none

/-- The token of a whole word. -/
def ofWord? (chars : List Char) : Option Token :=
  match String.ofList chars with
  | "null" => some .null
  | "true" => some (.bool true)
  | "false" => some (.bool false)
  | _ => (Numeral.read? chars).map .numeral

namespace Scanner

/-- Reads a character between tokens. -/
def start? (tokens : List Token) (c : Char) : Option Scanner :=
  if c == ' ' || c == '\t' || c == '\n' || c == '\r' then some ⟨.between, tokens⟩
  else if c == '"' then some ⟨.text [], tokens⟩
  else if isWordChar c then some ⟨.word [c], tokens⟩
  else match c with
    | '\x7b' => some ⟨.between, .openBrace :: tokens⟩
    | '\x7d' => some ⟨.between, .closeBrace :: tokens⟩
    | '[' => some ⟨.between, .openBracket :: tokens⟩
    | ']' => some ⟨.between, .closeBracket :: tokens⟩
    | ',' => some ⟨.between, .comma :: tokens⟩
    | ':' => some ⟨.between, .colon :: tokens⟩
    | _ => none

/-- Reads one character. -/
def step? (s : Scanner) (c : Char) : Option Scanner :=
  match s.mode with
  | .between => start? s.tokens c
  | .word chars =>
    if isWordChar c then some { s with mode := .word (c :: chars) }
    else do
      let t ← ofWord? chars.reverse
      start? (t :: s.tokens) c
  | .text units =>
    if c == '"' then some ⟨.between, .text units.reverse :: s.tokens⟩
    else if c == '\\' then some { s with mode := .escape units }
    else if c.toNat < 0x20 then none
    else some { s with mode := .text (c.toNat :: units) }
  | .escape units =>
    if c == 'u' then some { s with mode := .unicode units 4 0 }
    else (escaped? c).map fun e => { s with mode := .text (e.toNat :: units) }
  | .unicode units left value => do
    let d ← hexDigit? c
    let value := value * 16 + d
    if left ≤ 1 then pure { s with mode := .text (value :: units) }
    else pure { s with mode := .unicode units (left - 1) value }

/-- The tokens at the end of a text; `none` inside a string. -/
def finish? (s : Scanner) : Option (List Token) :=
  match s.mode with
  | .between => some s.tokens.reverse
  | .word chars => (ofWord? chars.reverse).map fun t => (t :: s.tokens).reverse
  | _ => none

end Scanner

/-- The tokens of a text; `none` when it is no sequence of tokens. -/
def scan (text : List Char) : Option (List Token) := do
  let s ← text.foldlM Scanner.step? {}
  s.finish?

end Token

end LogIntake.Json
