import LogIntake.Text.Utf8

/-!
# Hashing of texts

SipHash-1-3 with a zero key: a keyed hash with one round for each word of eight bytes and three
at the end. A text is hashed as its UTF-8 bytes and a final byte 0xFF, so no text is hashed like
the beginning of another.
-/

namespace LogIntake.Text.SipHash

/-- The four words of the state. -/
structure State where
  v0 : UInt64
  v1 : UInt64
  v2 : UInt64
  v3 : UInt64

/-- A word with its bits moved up in a circle. -/
def rotate (x : UInt64) (n : UInt64) : UInt64 :=
  (x <<< n) ||| (x >>> (64 - n))

/-- One round. -/
def State.round (s : State) : State :=
  let v0 := s.v0 + s.v1
  let v1 := rotate s.v1 13 ^^^ v0
  let v0 := rotate v0 32
  let v2 := s.v2 + s.v3
  let v3 := rotate s.v3 16 ^^^ v2
  let v0 := v0 + v3
  let v3 := rotate v3 21 ^^^ v0
  let v2 := v2 + v1
  let v1 := rotate v1 17 ^^^ v2
  let v2 := rotate v2 32
  ⟨v0, v1, v2, v3⟩

/-- The state before any byte, for a zero key. -/
def State.initial : State :=
  ⟨0x736f6d6570736575, 0x646f72616e646f6d, 0x6c7967656e657261, 0x7465646279746573⟩

/-- Mixes a word into the state. -/
def State.absorb (s : State) (m : UInt64) : State :=
  let s := { s with v3 := s.v3 ^^^ m }.round
  { s with v0 := s.v0 ^^^ m }

/-- Mixes bytes into the state, eight at a time from the least significant one. `word` holds
`count` bytes that wait, and at the end also the total number of bytes. -/
def State.absorbBytes (s : State) (word : UInt64) (count total : Nat) : List UInt8 → State
  | [] => s.absorb (word ||| (UInt64.ofNat (total % 256) <<< 56))
  | b :: rest =>
    let word := word ||| (b.toUInt64 <<< UInt64.ofNat (8 * count))
    if count = 7 then (s.absorb word).absorbBytes 0 0 (total + 1) rest
    else s.absorbBytes word (count + 1) (total + 1) rest

/-- The hash of bytes. -/
def hash (bytes : List UInt8) : UInt64 :=
  let s := State.initial.absorbBytes 0 0 0 bytes
  let s := { s with v2 := s.v2 ^^^ 0xFF }.round.round.round
  s.v0 ^^^ s.v1 ^^^ s.v2 ^^^ s.v3

/-- The hash of a text. -/
def hashText (s : String) : UInt64 :=
  hash (Utf8.encode s ++ [0xFF])

end LogIntake.Text.SipHash
