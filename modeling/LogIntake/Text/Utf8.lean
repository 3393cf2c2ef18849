/-!
# UTF-8

Bytes are decoded to characters in two ways. `decode?` is **strict**: it refuses surrogates,
overlong forms, values above U+10FFFF and truncated sequences. `decodeLossy` puts U+FFFD in
the place of each maximal ill-formed part, which is the longest prefix of some well-formed
sequence, or one byte if there is none.

Both follow the table of well-formed sequences: a lead byte determines how many continuation
bytes follow and the range of the first of them.
-/

namespace LogIntake.Text.Utf8

/-- What a lead byte announces: the payload bits it carries, the number of continuation bytes
and the inclusive range of the first of them. -/
structure Lead where
  bits : Nat
  following : Nat
  low : UInt8
  high : UInt8

/-- The row of the table of well-formed sequences for a lead byte; `none` for a byte that
starts no sequence. -/
def lead? (b : UInt8) : Option Lead :=
  if b < 0x80 then some ⟨b.toNat, 0, 0, 0⟩
  else if b < 0xC2 then none
  else if b < 0xE0 then some ⟨b.toNat - 0xC0, 1, 0x80, 0xBF⟩
  else if b = 0xE0 then some ⟨0, 2, 0xA0, 0xBF⟩
  else if b = 0xED then some ⟨0xD, 2, 0x80, 0x9F⟩
  else if b < 0xF0 then some ⟨b.toNat - 0xE0, 2, 0x80, 0xBF⟩
  else if b = 0xF0 then some ⟨0, 3, 0x90, 0xBF⟩
  else if b < 0xF4 then some ⟨b.toNat - 0xF0, 3, 0x80, 0xBF⟩
  else if b = 0xF4 then some ⟨4, 3, 0x80, 0x8F⟩
  else none

/-- Where a decoder stands: between characters, or inside one with the bits so far, the number
of continuation bytes still to come and the range of the next. -/
inductive State where
  | start
  | inside (bits : Nat) (left : Nat) (low high : UInt8)

/-- What one byte does to a decoder. -/
inductive Step where
  /-- A character is complete. -/
  | done (c : Char)
  /-- The byte is a part of a character that is not complete yet. -/
  | more (s : State)
  /-- The byte cannot stand here. -/
  | bad

/-- The decoder's transition on one byte. -/
def step : State → UInt8 → Step
  | .start, b =>
    match lead? b with
    | none => .bad
    | some l =>
      match l.following with
      | 0 => .done (Char.ofNat l.bits)
      | n + 1 => .more (.inside l.bits (n + 1) l.low l.high)
  | .inside bits left low high, b =>
    if low ≤ b && b ≤ high then
      let bits := bits * 64 + (b.toNat - 0x80)
      if left ≤ 1 then .done (Char.ofNat bits) else .more (.inside bits (left - 1) 0x80 0xBF)
    else .bad

/-- Decodes from a state; `none` when the bytes are not well-formed UTF-8. -/
def decodeFrom? : State → List UInt8 → Option (List Char)
  | .start, [] => some []
  | .inside .., [] => none
  | s, b :: rest =>
    match step s b with
    | .done c => (decodeFrom? .start rest).map (c :: ·)
    | .more s' => decodeFrom? s' rest
    | .bad => none

/-- The characters of a byte string; `none` when it is not well-formed UTF-8. -/
def decode? (bytes : List UInt8) : Option String :=
  (decodeFrom? .start bytes).map String.ofList

/-- The character that stands for an ill-formed part. -/
def replacement : Char := '\uFFFD'

/-- Decodes from a state and replaces each maximal ill-formed part. A byte that ends an
unfinished character is looked at again as the start of the next. -/
def decodeLossyFrom : State → List UInt8 → List Char
  | .start, [] => []
  | .inside .., [] => [replacement]
  | .start, b :: rest =>
    match step .start b with
    | .done c => c :: decodeLossyFrom .start rest
    | .more s => decodeLossyFrom s rest
    | .bad => replacement :: decodeLossyFrom .start rest
  | .inside bits left low high, b :: rest =>
    match step (.inside bits left low high) b with
    | .done c => c :: decodeLossyFrom .start rest
    | .more s => decodeLossyFrom s rest
    | .bad =>
      match step .start b with
      | .done c => replacement :: c :: decodeLossyFrom .start rest
      | .more s => replacement :: decodeLossyFrom s rest
      | .bad => replacement :: replacement :: decodeLossyFrom .start rest

/-- The text of a byte string, with U+FFFD in the place of what is not UTF-8. -/
def decodeLossy (bytes : List UInt8) : String :=
  String.ofList (decodeLossyFrom .start bytes)

/-- The bytes of a text. -/
def encode (s : String) : List UInt8 :=
  s.toUTF8.toList

end LogIntake.Text.Utf8
