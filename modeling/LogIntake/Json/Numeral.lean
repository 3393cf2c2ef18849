import LogIntake.Json.Value

/-!
# JSON numerals

A **numeral** is an optional minus sign, an integer part without superfluous leading zeros, an
optional fraction and an optional exponent. Without fraction and exponent it names an integer
if that lies in `[-2 ^ 63, 2 ^ 64)` and is not negative zero, and a double otherwise.

The double is computed from a **significand** of at most 64 bits: digits are collected as long
as they fit, further integer digits raise the exponent, and further digits of the fraction are
left out. The significand is rounded to a double and then multiplied or divided by one power of
ten, so the result may differ from the nearest double in the last bits. A result that is
infinite is no value.
-/

namespace LogIntake.Json

open Number (Double)
open LogIntake.Text (digitsValue)

/-- The parts of a numeral: digits of the integer part and the fraction, and the exponent. A
fraction or exponent that is not written is absent. -/
structure Numeral where
  negative : Bool
  whole : List Char
  fraction : Option (List Char)
  exponent : Option Int
  deriving DecidableEq, Repr

namespace Numeral

/-- Reads the end of a numeral: nothing, or an exponent. -/
def readExponent? : List Char → Option (Option Int)
  | [] => some none
  | c :: r =>
    if c = 'e' ∨ c = 'E' then
      let (negative, ds) := Number.Literal.readSign r
      if ds.isEmpty || !ds.all Char.isDigit then none
      else some (some (if negative then -(digitsValue ds : Int) else digitsValue ds))
    else none

/-- Takes a text apart as a numeral; `none` when it is none. -/
def read? (s : List Char) : Option Numeral := do
  let (negative, s) := match s with
    | '-' :: r => (true, r)
    | r => (false, r)
  let whole := s.takeWhile Char.isDigit
  let rest := s.dropWhile Char.isDigit
  if whole.isEmpty || (1 < whole.length && whole.head? == some '0') then none
  match rest with
  | '.' :: r =>
    let fraction := r.takeWhile Char.isDigit
    if fraction.isEmpty then none
    let exponent ← readExponent? (r.dropWhile Char.isDigit)
    pure ⟨negative, whole, some fraction, exponent⟩
  | r =>
    let exponent ← readExponent? r
    pure ⟨negative, whole, none, exponent⟩

/-- The numbers that a significand can hold lie below this bound. -/
def significandBound : Nat := Number.word64

/-- A significand after as many digits of a run as fit, and the number of digits left over. -/
def collect (significand : Nat) : List Char → Nat × Nat
  | [] => (significand, 0)
  | c :: r =>
    let next := significand * 10 + (c.toNat - 48)
    if next < significandBound then collect next r else (significand, r.length + 1)

/-- Divides by `10 ^ 308` while the exponent is below the reach of one division, then scales by
one power of ten. A number that has become zero stays zero, and one whose exponent is above the
reach of one multiplication is no value. -/
def scale? (x : Float) (e : Int) : Option Float :=
  if e < -308 then
    if x == 0 then some x else scale? (x / (Double.pow10 308).toFloat) (e + 308)
  else if 308 < e then
    if x == 0 then some x else none
  else if e < 0 then some (x / (Double.pow10 (-e).toNat).toFloat)
  else
    let y := x * (Double.pow10 e.toNat).toFloat
    if y.isInf then none else some y
termination_by (-e).toNat
decreasing_by omega

/-- The double that a numeral names, as the significand rule gives it. -/
def double? (n : Numeral) : Option Double := do
  let (significand, surplus) := collect 0 n.whole
  let fraction := n.fraction.getD []
  let (significand, left) := collect significand fraction
  let used := fraction.length - left
  let e := n.exponent.getD 0 + surplus - used
  let x ← scale? (Double.ofNat significand).toFloat e
  let magnitude := Double.ofFloat x
  pure (if n.negative then magnitude.neg else magnitude)

/-- The integer that a numeral names, where it has no fraction and no exponent, is in range and
is not negative zero. -/
def integer? (n : Numeral) : Option Int :=
  match n.fraction, n.exponent with
  | none, none =>
    let v := digitsValue n.whole
    if n.negative then
      if 0 < v ∧ v ≤ Number.signed64 then some (-(v : Int)) else none
    else if v < Number.word64 then some v else none
  | _, _ => none

/-- The JSON value that a numeral names. -/
def value? (n : Numeral) : Option Json :=
  match n.integer? with
  | some i => some (.int i)
  | none => n.double?.map .float

end Numeral

end LogIntake.Json
