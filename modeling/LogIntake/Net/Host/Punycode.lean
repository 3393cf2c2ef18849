import LogIntake.Number.Word

/-!
# Punycode

How a text is written in ASCII letters, digits and dashes. Its ASCII characters come first. Behind
the last dash the other characters are **inserted** one by one, in the order of their code points,
and those of one code point from left to right. An insertion is a number: how many other places
and code points could have come next and did not.

Numbers are written with digits `a` to `z` and `0` to `9`, the lowest first. A digit below its
**threshold** ends the number. Thresholds depend on a **bias**, which adapts itself to the size of
the numbers that have been written.
-/

namespace LogIntake.Net.Host.Punycode

/-- The number of digits. -/
def base : Nat := 36

/-- The smallest threshold. -/
def minThreshold : Nat := 1

/-- The greatest threshold. -/
def maxThreshold : Nat := 26

/-- The bias at first. -/
def firstBias : Nat := 72

/-- The first code point that is inserted. -/
def firstCode : Nat := 0x80

/-- What the first number is divided by before the bias adapts itself to it. -/
def damping : Nat := 700

/-- What keeps the bias low. -/
def skew : Nat := 38

/-- The threshold of a digit, of which `position` is the base times its number from one on. -/
def threshold (position bias : Nat) : Nat :=
  min maxThreshold (max minThreshold (position - bias))

/-- How often `delta` has to be divided to become small, times the base, and what is left. -/
def scaled (delta position : Nat) : Nat × Nat :=
  if (base - minThreshold) * maxThreshold / 2 < delta then
    scaled (delta / (base - minThreshold)) (position + base)
  else (position, delta)
termination_by delta
decreasing_by
  rename_i h
  exact Nat.div_lt_self (Nat.zero_lt_of_lt h) (by decide)

/-- The bias after a number, where there are `count` characters then. -/
def adapted (delta count : Nat) (isFirst : Bool) : Nat :=
  let delta := if isFirst then delta / damping else delta / 2
  let (position, rest) := scaled (delta + delta / count) 0
  position + (base - minThreshold + 1) * rest / (rest + skew)

/-! ### Writing -/

/-- A digit. -/
def digit (n : Nat) : Char :=
  if n < 26 then Char.ofNat (97 + n) else Char.ofNat (48 + n - 26)

/-- The digits of a number from a position on. -/
def digits (bias position n : Nat) : List Char :=
  let t := threshold position bias
  if n < t then [digit n]
  else
    digit (t + (n - t) % (base - t)) :: digits bias (position + base) ((n - t) / (base - t))
termination_by n
decreasing_by
  have ht : 1 ≤ threshold position bias := by
    simp only [threshold, maxThreshold, minThreshold]; omega
  exact Nat.lt_of_le_of_lt (Nat.div_le_self _ _) (by omega)

/-- Where a writer stands. -/
structure Writer where
  /-- What has been written. -/
  written : List Char
  /-- The number of places that have been passed since the last insertion. -/
  delta : Nat := 0
  bias : Nat := firstBias
  /-- The number of characters that are there. -/
  count : Nat

namespace Writer

/-- Passes one character of the text, where characters with the code point `code` are inserted. -/
def pass (basic code : Nat) (w : Writer) (c : Char) : Writer :=
  if c.toNat < code then { w with delta := w.delta + 1 }
  else if c.toNat = code then
    { written := w.written ++ digits w.bias base w.delta
      bias := adapted w.delta (w.count + 1) (w.count = basic)
      count := w.count + 1 }
  else w

/-- Inserts the characters of each of some code points, which are increasing; `next` is the first
code point that has not been passed. -/
def insertAll (text : List Char) (basic : Nat) : (next : Nat) → List Nat → Writer → Writer
  | _, [], w => w
  | next, code :: codes, w =>
    let w := { w with delta := w.delta + (code - next) * (w.count + 1) }
    let w := text.foldl (pass basic code) w
    insertAll text basic (code + 1) codes { w with delta := w.delta + 1 }

end Writer

/-- The code points that are inserted, without repetition and in increasing order. -/
def codes (text : List Char) : List Nat :=
  (((text.map Char.toNat).filter (firstCode ≤ ·)).mergeSort (· ≤ ·)).eraseReps

/-- A text in Punycode. -/
def encode (text : List Char) : List Char :=
  let basic := text.filter (·.toNat < firstCode)
  let dash := if basic.isEmpty then [] else ['-']
  let w : Writer := { written := [], count := basic.length }
  basic ++ dash ++ (w.insertAll text basic.length firstCode (codes text)).written

/-! ### Reading -/

/-- The value of a digit. -/
def digit? (c : Char) : Option Nat :=
  if 'a' ≤ c ∧ c ≤ 'z' then some (c.toNat - 97)
  else if '0' ≤ c ∧ c ≤ '9' then some (c.toNat - 48 + 26)
  else none

/-- Where a reader stands: the text so far and what is known of the number that is being read. -/
structure Reader where
  text : List Char
  code : Nat := firstCode
  bias : Nat := firstBias
  /-- The place behind the last insertion. -/
  start : Nat := 0
  /-- The sum of that place and the digits of the number so far. -/
  sum : Nat := 0
  /-- What the next digit counts. -/
  weight : Nat := 1
  position : Nat := base

namespace Reader

/-- Inserts a character after a whole number. -/
def insert? (r : Reader) : Option Reader :=
  let count := r.text.length + 1
  let code := r.code + r.sum / count
  let place := r.sum % count
  if code.isValidChar then
    some {
      text := r.text.insertIdx place (Char.ofNat code)
      code
      bias := adapted (r.sum - r.start) count (r.start = 0)
      start := place + 1
      sum := place + 1 }
  else none

/-- Reads a digit. Numbers have 32 bits. -/
def read? (r : Reader) (c : Char) : Option Reader := do
  let n ← digit? c
  let r := { r with sum := r.sum + n * r.weight }
  let t := threshold r.position r.bias
  if Number.word32 ≤ r.sum then none
  else if n < t then r.insert?
  else
    let weight := r.weight * (base - t)
    if Number.word32 ≤ weight then none
    else pure { r with weight, position := r.position + base }

/-- Whether no number has been begun. -/
def isComplete (r : Reader) : Bool :=
  r.position = base

end Reader

/-- The text that is written in Punycode in small letters; `none` where it is none. -/
def decode? (s : List Char) : Option (List Char) := do
  let numbers := (s.reverse.takeWhile (· ≠ '-')).reverse
  let basic := s.take (s.length - numbers.length - 1)
  let numbers := if basic.isEmpty then s else numbers
  let r ← numbers.foldlM Reader.read? { text := basic }
  if r.isComplete then pure r.text else none

end LogIntake.Net.Host.Punycode
