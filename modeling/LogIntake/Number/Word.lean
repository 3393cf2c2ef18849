/-!
# Machine words

The bounds of the numbers that machine words hold.
-/

namespace LogIntake.Number

/-- Words of 16 bits hold the natural numbers below this one. -/
abbrev word16 : Nat := 0x10000

/-- Words of 32 bits hold the natural numbers below this one. -/
abbrev word32 : Nat := 0x100000000

/-- Words of 64 bits hold the natural numbers below this one. -/
abbrev word64 : Nat := 0x10000000000000000

/-- Words of 64 bits with a sign hold the integers from the negative of this number up to it,
but not the number itself. -/
abbrev signed64 : Nat := 0x8000000000000000

end LogIntake.Number
