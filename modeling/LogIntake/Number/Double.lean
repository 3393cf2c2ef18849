import LogIntake.Number.Single

/-!
# Double-precision numbers

A **double** is the 64 bits of a binary64 number. Values are kept and compared as bits;
arithmetic goes through `Double.toFloat` and back, and conversions to integers saturate.
-/

namespace LogIntake.Number

/-- The bits of a double-precision number. -/
structure Double where
  bits : UInt64
  deriving DecidableEq, Repr, Inhabited

namespace Double

/-- The number in double-precision arithmetic. -/
def toFloat (x : Double) : Float :=
  Float.ofBits x.bits

/-- The bits of a result of double-precision arithmetic. -/
def ofFloat (x : Float) : Double :=
  ⟨x.toBits⟩

/-- Whether the sign bit is set. -/
def isNegative (x : Double) : Bool :=
  Format.binary64.signBit ≤ x.bits.toNat

/-- What the bits without the sign stand for. -/
def magnitude (x : Double) : Format.Magnitude :=
  Format.binary64.decode (x.bits.toNat % Format.binary64.signBit)

/-- The double nearest to a natural number. -/
def ofNat (n : Nat) : Double :=
  ⟨UInt64.ofNat (Format.binary64.ofRatio n 1)⟩

/-- The double nearest to an integer. -/
def ofInt (n : Int) : Double :=
  let magnitude := Format.binary64.ofRatio n.natAbs 1
  ⟨UInt64.ofNat (if n < 0 then Format.binary64.signBit + magnitude else magnitude)⟩

/-- The double nearest to a power of ten with a natural exponent. -/
def pow10 (n : Nat) : Double :=
  ⟨UInt64.ofNat (Literal.decimalBits .binary64 1 n)⟩

/-- The same number with the other sign. -/
def neg (x : Double) : Double :=
  ⟨x.bits ^^^ 0x8000000000000000⟩

/-- The double that a decimal literal names; `none` when the text is no literal. -/
def read? (text : String) : Option Double :=
  (Literal.read? text).map fun l => ⟨UInt64.ofNat (l.bits .binary64)⟩

/-- The single nearest to a double. -/
def toSingle (x : Double) : Single :=
  let magnitude :=
    Format.binary64.convert .binary32 (x.bits.toNat % Format.binary64.signBit)
  .ofNatBits (if x.isNegative then Format.binary32.signBit + magnitude else magnitude)

/-- The double that is equal to a single. -/
def ofSingle (x : Single) : Double :=
  let magnitude := Format.binary32.convert .binary64 x.magnitude
  ⟨UInt64.ofNat (if x.isNegative then Format.binary64.signBit + magnitude else magnitude)⟩

/-- The number without its fraction, as a 64-bit count: negative numbers and values that are not
numbers give zero, and numbers that are too large give the largest count. -/
def toCount (x : Double) : UInt64 :=
  match x.magnitude with
  | .notNumber => 0
  | .infinite => if x.isNegative then 0 else 0xFFFFFFFFFFFFFFFF
  | .finite m q =>
    if x.isNegative then 0
    else UInt64.ofNat (min (word64 - 1) (m * Nat.pow 2 q.toNat / Nat.pow 2 (-q).toNat))

/-- The nearest integer of a finite number, a half going away from zero; `none` for infinities
and values that are not numbers. -/
def round? (x : Double) : Option Int :=
  match x.magnitude with
  | .finite m q =>
    let num := m * Nat.pow 2 q.toNat
    let den := Nat.pow 2 (-q).toNat
    let n : Nat := (2 * num + den) / (2 * den)
    some (if x.isNegative then -(n : Int) else n)
  | _ => none

end Double

/-- The number in double-precision arithmetic, which holds every single exactly. -/
def Single.toFloat (x : Single) : Float :=
  (Double.ofSingle x).toFloat

/-- The single nearest to a result of double-precision arithmetic. -/
def Single.ofFloat (x : Float) : Single :=
  (Double.ofFloat x).toSingle

end LogIntake.Number
