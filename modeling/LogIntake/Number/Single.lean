import LogIntake.Number.Decimal

/-!
# Single-precision numbers

A **single** is the 32 bits of a binary32 number, so equality of singles is equality of bits.
The order that similarity thresholds are compared with is `Single.le`: it is the order of an
integer key on numbers, where both zeros have the key zero, and no value that is not a number
is below or above anything.
-/

namespace LogIntake.Number

/-- The bits of a single-precision number. -/
structure Single where
  bits : UInt32
  deriving DecidableEq, Repr, Inhabited

namespace Single

/-- The bits without the sign. -/
def magnitude (x : Single) : Nat :=
  x.bits.toNat % Format.binary32.signBit

/-- Whether the sign bit is set. -/
def isNegative (x : Single) : Bool :=
  Format.binary32.signBit ≤ x.bits.toNat

/-- Whether the bits stand for no number. -/
def isNaN (x : Single) : Bool :=
  Format.binary32.infinity < x.magnitude

/-- The place of a number in the order of all numbers. -/
def key (x : Single) : Int :=
  if x.isNegative then -(x.magnitude : Int) else x.magnitude

/-- Whether both are numbers and the first is at most the second. -/
def le (x y : Single) : Bool :=
  !x.isNaN && !y.isNaN && x.key ≤ y.key

/-- Whether both are numbers and the first is less than the second. -/
def lt (x y : Single) : Bool :=
  !x.isNaN && !y.isNaN && x.key < y.key

/-- The order of singles is transitive. -/
theorem le_trans {x y z : Single} (hxy : x.le y) (hyz : y.le z) : x.le z := by
  simp only [le, Bool.and_eq_true, Bool.not_eq_true', decide_eq_true_eq] at *
  exact ⟨⟨hxy.1.1, hyz.1.2⟩, Int.le_trans hxy.2 hyz.2⟩

/-- The single whose bits are a natural number below `2 ^ 32`. -/
def ofNatBits (n : Nat) : Single :=
  ⟨UInt32.ofNat n⟩

/-- Positive zero. -/
def zero : Single := ⟨0⟩

/-- One. -/
def one : Single := ⟨0x3F800000⟩

/-- The single nearest to an integer. -/
def ofInt (n : Int) : Single :=
  let magnitude := Format.binary32.ofRatio n.natAbs 1
  ofNatBits (if n < 0 then Format.binary32.signBit + magnitude else magnitude)

/-- The single that a decimal literal names; `none` when the text is no literal. -/
def read? (text : String) : Option Single :=
  (Literal.read? text).map fun l => ofNatBits (l.bits .binary32)

/-- The shortest decimal that reads back as the number, without an exponent. -/
def print (x : Single) : String :=
  Format.binary32.print x.bits.toNat

end Single

end LogIntake.Number
