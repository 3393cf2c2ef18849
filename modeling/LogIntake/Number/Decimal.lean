import LogIntake.Number.Binary
import LogIntake.Text.Digits

/-!
# Decimal text of binary numbers

A **decimal literal** is an optional sign followed by `inf`, `infinity` or `nan` in any case, or
by digits with an optional point and an optional exponent, where a digit stands on at least one
side of the point. `Literal.read?` takes a text apart and `Literal.bits` rounds the number it
names once, to the nearest number of a format.

`Format.shortest` goes the other way: of the decimals that read back as a number, it finds one
with the fewest digits, and of those the nearest.
-/

namespace LogIntake.Number

open LogIntake.Text (digitsValue)

/-- What a decimal literal without its sign names. -/
inductive Quantity where
  /-- The number `digits · 10 ^ exponent`. -/
  | decimal (digits : Nat) (exponent : Int)
  | infinite
  | notNumber
  deriving DecidableEq, Repr

/-- A decimal literal: its sign and what follows. -/
structure Literal where
  negative : Bool
  quantity : Quantity
  deriving DecidableEq, Repr

namespace Literal

/-- Reads an optional sign. -/
def readSign : List Char → Bool × List Char
  | '+' :: r => (false, r)
  | '-' :: r => (true, r)
  | r => (false, r)

/-- Reads nothing, or the letter `e` with an optionally signed run of digits, to the end. -/
def readExponent? : List Char → Option Int
  | [] => some 0
  | c :: r =>
    if c = 'e' ∨ c = 'E' then
      let (negative, ds) := readSign r
      if ds.isEmpty || !ds.all Char.isDigit then none
      else some (if negative then -(digitsValue ds : Int) else digitsValue ds)
    else none

/-- Reads digits, an optional fraction and an optional exponent, to the end. -/
def readNumber? (s : List Char) : Option Quantity :=
  let whole := s.takeWhile Char.isDigit
  let rest := s.dropWhile Char.isDigit
  let (fraction, rest) :=
    match rest with
    | '.' :: r => (r.takeWhile Char.isDigit, r.dropWhile Char.isDigit)
    | r => ([], r)
  if whole.isEmpty && fraction.isEmpty then none
  else (readExponent? rest).map fun e =>
    .decimal (digitsValue (whole ++ fraction)) (e - fraction.length)

/-- Reads a decimal literal; `none` when the text is none. -/
def read? (text : String) : Option Literal :=
  let (negative, body) := readSign text.toList
  let word := String.ofList (body.map Char.toLower)
  if word = "inf" ∨ word = "infinity" then some ⟨negative, .infinite⟩
  else if word = "nan" then some ⟨negative, .notNumber⟩
  else (readNumber? body).map (⟨negative, ·⟩)

/-- A power of ten beyond which every format in use has only infinity, and below whose inverse
only zero. -/
def range : Int := 400

/-- The bits, without a sign, of the number of a format nearest to `digits · 10 ^ exponent`. -/
def decimalBits (f : Format) (digits : Nat) (exponent : Int) : Nat :=
  if digits = 0 then 0
  else
    let size : Int := (Nat.toDigits 10 digits).length
    if range < size - 1 + exponent then f.infinity
    else if size + exponent < -range then 0
    else f.ofRatio (digits * Nat.pow 10 exponent.toNat) (Nat.pow 10 (-exponent).toNat)

/-- The bits of the number of a format nearest to what a literal names. -/
def bits (f : Format) (l : Literal) : Nat :=
  let magnitude :=
    match l.quantity with
    | .decimal digits exponent => decimalBits f digits exponent
    | .infinite => f.infinity
    | .notNumber => f.nan
  if l.negative then f.signBit + magnitude else magnitude

end Literal

/-! ### Shortest decimals -/

namespace Format

/-- A positive rational number. -/
structure Ratio where
  num : Nat
  den : Nat

/-- The rational number `m · 2 ^ q`. -/
def Ratio.scaled (m : Nat) (q : Int) : Ratio :=
  ⟨m * Nat.pow 2 q.toNat, Nat.pow 2 (-q).toNat⟩

/-- The number of leading zeros after the point of a ratio below one, looking at `fuel` places. -/
def leadingZeros (r : Ratio) : Nat → Nat
  | 0 => 0
  | fuel + 1 =>
    if r.den ≤ r.num * 10 then 0 else leadingZeros ⟨r.num * 10, r.den⟩ fuel + 1

/-- The power of ten just above a positive ratio: `10 ^ (k - 1) ≤ r < 10 ^ k`. -/
def Ratio.decimalExponent (r : Ratio) : Int :=
  if r.den ≤ r.num then (Nat.toDigits 10 (r.num / r.den)).length
  else -(leadingZeros r (r.den.log2 + 1) : Int)

/-- Whether `n · 10 ^ e` lies in the interval from `low` to `high`, whose ends belong to it when
`closed` holds. -/
def within (low high : Ratio) (closed : Bool) (n : Nat) (e : Int) : Bool :=
  let num := n * Nat.pow 10 e.toNat
  let den := Nat.pow 10 (-e).toNat
  let l := low.num * den
  let h := high.num * den
  if closed then l ≤ num * low.den && num * high.den ≤ h
  else l < num * low.den && num * high.den < h

/-- The decimal with the fewest digits in an interval about `v`, of those with as many digits the
nearest to `v`, as digits and exponent. Tries `fuel` digit counts from `count` on. -/
def shortestFrom (v low high : Ratio) (closed : Bool) (k : Int) (count : Nat) :
    Nat → Nat × Int
  | 0 => (0, 0)
  | fuel + 1 =>
    let e := k - count
    let num := v.num * Nat.pow 10 (-e).toNat
    let den := v.den * Nat.pow 10 e.toNat
    let below := num / den
    let downOk := within low high closed below e
    let upOk := within low high closed (below + 1) e
    if downOk && (!upOk || 2 * (num % den) < den) then (below, e)
    else if upOk then (below + 1, e)
    else shortestFrom v low high closed k (count + 1) fuel

/-- The shortest decimal that reads back as the positive number `m · 2 ^ q` of the format, as
digits and exponent. -/
def shortest (f : Format) (m : Nat) (q : Int) : Nat × Int :=
  let v := Ratio.scaled (4 * m) (q - 2)
  let high := Ratio.scaled (4 * m + 2) (q - 2)
  let narrow := m == Nat.pow 2 f.fractionBits && f.minExponent < q
  let low := Ratio.scaled (4 * m - (if narrow then 1 else 2)) (q - 2)
  shortestFrom v low high (m % 2 == 0) v.decimalExponent 1 20

/-- Writes `digits · 10 ^ e` with a point and no exponent. -/
def positional (digits : Nat) (e : Int) : String :=
  let text := toString digits
  match e with
  | .ofNat n => text ++ String.ofList (List.replicate n '0')
  | .negSucc n =>
    let places := n + 1
    let padded := List.replicate (places + 1 - text.length) '0' ++ text.toList
    let whole := padded.take (padded.length - places)
    String.ofList (whole ++ '.' :: padded.drop (padded.length - places))

/-- Drops the zeros at the end of a decimal's digits. -/
def stripZeros (digits : Nat) (e : Int) : Nat → Nat × Int
  | 0 => (digits, e)
  | fuel + 1 =>
    if digits ≠ 0 ∧ digits % 10 = 0 then stripZeros (digits / 10) (e + 1) fuel else (digits, e)

/-- Writes bits with a sign as the shortest decimal that reads back, never with an exponent. -/
def print (f : Format) (bits : Nat) : String :=
  let negative := f.signBit ≤ bits
  let mark := if negative then "-" else ""
  match f.decode (bits % f.signBit) with
  | .notNumber => "NaN"
  | .infinite => mark ++ "inf"
  | .finite 0 _ => mark ++ "0"
  | .finite m q =>
    let (digits, e) := f.shortest m q
    let (digits, e) := stripZeros digits e 20
    mark ++ positional digits e

end Format

end LogIntake.Number
