import LogIntake.Number.Word

/-!
# Binary interchange formats

A **format** fixes how many bits the fraction and the exponent of a floating-point number have.
A finite non-negative number of the format is `m · 2 ^ q`, and its bits, read as one integer,
grow with its value. `Format.ofRatio` rounds a rational number to the nearest number of the
format, a tie going to the even significand, and `Format.decode` takes the bits apart again.

All arithmetic is exact, on natural numbers.
-/

namespace LogIntake.Number

/-- The widths of a binary interchange format. -/
structure Format where
  fractionBits : Nat
  exponentBits : Nat
  deriving DecidableEq, Repr

namespace Format

/-- Single precision: 23 fraction bits and 8 exponent bits. -/
def binary32 : Format := ⟨23, 8⟩

/-- Double precision: 52 fraction bits and 11 exponent bits. -/
def binary64 : Format := ⟨52, 11⟩

/-- The exponent of the least significant bit of the smallest numbers. -/
def minExponent (f : Format) : Int :=
  2 - Nat.pow 2 (f.exponentBits - 1) - f.fractionBits

/-- The bits of positive infinity; what lies above, up to the sign bit, is not a number. -/
def infinity (f : Format) : Nat :=
  (Nat.pow 2 f.exponentBits - 1) * Nat.pow 2 f.fractionBits

/-- The weight of the sign bit. -/
def signBit (f : Format) : Nat :=
  Nat.pow 2 (f.fractionBits + f.exponentBits)

/-- The bits of the canonical value that is not a number. -/
def nan (f : Format) : Nat :=
  f.infinity + Nat.pow 2 (f.fractionBits - 1)

/-- The floor of `num / den / 2 ^ q` together with twice the remainder and the divisor of that
division, which say on which side of one half the rest lies. -/
def scaledDiv (num den : Nat) (q : Int) : Nat × Nat × Nat :=
  let n := num * Nat.pow 2 (-q).toNat
  let d := den * Nat.pow 2 q.toNat
  (n / d, 2 * (n % d), d)

/-- The nearest integer to `num / den / 2 ^ q`, a tie going to the even one. -/
def roundDiv (num den : Nat) (q : Int) : Nat :=
  let (m, twice, d) := scaledDiv num den q
  if twice < d ∨ (twice = d ∧ m % 2 = 0) then m else m + 1

/-- The bits of the number of the format nearest to `num / den`, which is infinity when the
quotient is too large. The denominator is positive. -/
def ofRatio (f : Format) (num den : Nat) : Nat :=
  if num = 0 then 0
  else
    let guess : Int := (num.log2 : Int) - den.log2 - f.fractionBits - 1
    let q := max f.minExponent guess
    let q := if (scaledDiv num den q).1 < Nat.pow 2 (f.fractionBits + 1) then q else q + 1
    min f.infinity ((q - f.minExponent).toNat * Nat.pow 2 f.fractionBits + roundDiv num den q)

/-- What bits without a sign stand for. -/
inductive Magnitude where
  /-- The number `m · 2 ^ q`. -/
  | finite (m : Nat) (q : Int)
  | infinite
  | notNumber
  deriving DecidableEq, Repr

/-- Takes bits without a sign apart. -/
def decode (f : Format) (bits : Nat) : Magnitude :=
  if f.infinity < bits then .notNumber
  else if bits = f.infinity then .infinite
  else
    let fraction := bits % Nat.pow 2 f.fractionBits
    match bits / Nat.pow 2 f.fractionBits with
    | 0 => .finite fraction f.minExponent
    | e + 1 => .finite (Nat.pow 2 f.fractionBits + fraction) (f.minExponent + e)

/-- Rounds the number that bits of one format stand for to another format. -/
def convert (f g : Format) (bits : Nat) : Nat :=
  match f.decode bits with
  | .finite m q => g.ofRatio (m * Nat.pow 2 q.toNat) (Nat.pow 2 (-q).toNat)
  | .infinite => g.infinity
  | .notNumber => g.nan

end Format

end LogIntake.Number
