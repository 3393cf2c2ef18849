import LogIntake.Json.Writer

/-!
# Socket addresses

A **socket address** is an IP address and a port. An IPv4 address is written as four decimal
numbers without superfluous zeros; an IPv6 address as eight groups of up to four hexadecimal
digits, of which the last two may be written as an IPv4 address, and a run of zero groups may be
left out once, between two colons. In a socket address the IPv6 address stands in brackets,
with an optional numeric zone after a percent sign.

Addresses are printed in one form: lower-case digits, the longest run of zero groups left out,
the leftmost of several, and only a run of two or more. An address that maps an IPv4 address
shows it.
-/

namespace LogIntake.Net

/-- An IP address: four bytes, or eight groups of 16 bits with a zone. -/
inductive Ip where
  | v4 (a b c d : UInt8)
  | v6 (groups : List UInt16) (zone : UInt32)
  deriving DecidableEq, Repr

/-- An IP address with a port. -/
structure SocketAddress where
  ip : Ip
  port : UInt16
  deriving DecidableEq, Repr

namespace SocketAddress

/-! ### Reading -/

/-- A reader takes something off the front of a text, or fails. -/
abbrev Reader (α : Type) := List Char → Option (α × List Char)

/-- Reads one given character. -/
def char? (c : Char) : Reader Unit
  | d :: r => if d = c then some ((), r) else none
  | [] => none

/-- The value of a digit in a base of at most sixteen. -/
def digit? (base : Nat) (c : Char) : Option Nat :=
  let v := if '0' ≤ c ∧ c ≤ '9' then c.toNat - 48
    else if 'a' ≤ c ∧ c ≤ 'f' then c.toNat - 87
    else if 'A' ≤ c ∧ c ≤ 'F' then c.toNat - 55
    else base
  if v < base then some v else none

/-- Reads all digits that come, at least one, as a number below a bound. More than `width`
digits are refused where a width is given. -/
def number? (base : Nat) (width : Option Nat) (bound : Nat) : Reader Nat := fun s =>
  let ds := s.takeWhile fun c => (digit? base c).isSome
  let value := ds.foldl (fun n c => n * base + (digit? base c).getD 0) 0
  let fits := match width with
    | some w => ds.length ≤ w
    | none => true
  if ds.isEmpty || !fits || bound ≤ value then none else some (value, s.drop ds.length)

/-- Reads a byte in decimal, without a superfluous leading zero. -/
def octet? : Reader UInt8 := fun s => do
  let (n, r) ← number? 10 (some 3) 256 s
  if s.head? == some '0' && 1 < s.length - r.length then none
  else pure (UInt8.ofNat n, r)

/-- Reads four bytes in decimal with points between them. -/
def octets? : Reader (UInt8 × UInt8 × UInt8 × UInt8) := fun s => do
  let (a, s) ← octet? s
  let (_, s) ← char? '.' s
  let (b, s) ← octet? s
  let (_, s) ← char? '.' s
  let (c, s) ← octet? s
  let (_, s) ← char? '.' s
  let (d, s) ← octet? s
  pure ((a, b, c, d), s)

/-- The 16 bits of two bytes. -/
def pair (high low : UInt8) : UInt16 :=
  UInt16.ofNat (high.toNat * 256 + low.toNat)

/-- Reads groups with colons between them, at most `limit`, and says whether the last two were
written as an IPv4 address. `first` says whether a colon must come before the next group. -/
def groups : (limit : Nat) → (first : Bool) → List Char → List UInt16 × Bool × List Char
  | 0, _, s => ([], false, s)
  | limit + 1, first, s =>
    let s' := if first then some s else (char? ':' s).map (·.2)
    match s' with
    | none => ([], false, s)
    | some s' =>
      match if 0 < limit then octets? s' else none with
      | some ((a, b, c, d), r) => ([pair a b, pair c d], true, r)
      | none =>
        match number? 16 (some 4) 65536 s' with
        | some (g, r) =>
          let (gs, dotted, r) := groups limit false r
          (UInt16.ofNat g :: gs, dotted, r)
        | none => ([], false, s)

/-- Reads the eight groups of an IPv6 address. -/
def groups? : Reader (List UInt16) := fun s => do
  let (front, dotted, s) := groups 8 true s
  if front.length = 8 then return (front, s)
  if dotted then none
  let (_, s) ← char? ':' s
  let (_, s) ← char? ':' s
  let (back, _, s) := groups (7 - front.length) true s
  pure (front ++ List.replicate (8 - front.length - back.length) 0 ++ back, s)

/-- Reads a zone: a percent sign and a number; no zone counts as zone zero. -/
def zone : List Char → UInt32 × List Char
  | '%' :: r =>
    match number? 10 none Number.word32 r with
    | some (n, r) => (UInt32.ofNat n, r)
    | none => (0, '%' :: r)
  | s => (0, s)

/-- Reads a colon and a port. -/
def port? : Reader UInt16 := fun s => do
  let (_, s) ← char? ':' s
  let (n, s) ← number? 10 none 65536 s
  pure (UInt16.ofNat n, s)

/-- Reads an IPv4 address and a port. -/
def v4? : Reader SocketAddress := fun s => do
  let ((a, b, c, d), s) ← octets? s
  let (port, s) ← port? s
  pure (⟨.v4 a b c d, port⟩, s)

/-- Reads an IPv6 address in brackets and a port. -/
def v6? : Reader SocketAddress := fun s => do
  let (_, s) ← char? '[' s
  let (gs, s) ← groups? s
  let (zone, s) := zone s
  let (_, s) ← char? ']' s
  let (port, s) ← port? s
  pure (⟨.v6 gs zone, port⟩, s)

/-- The socket address that a text is; `none` when it is none. -/
def ofText? (s : List Char) : Option SocketAddress :=
  match v4? s <|> v6? s with
  | some (a, []) => some a
  | _ => none

/-! ### Writing -/

/-- The hexadecimal digits of a group without leading zeros. -/
def writeGroup (g : UInt16) : List Char :=
  match (Json.hexDigits 4 g.toNat).dropWhile (· = '0') with
  | [] => ['0']
  | ds => ds

/-- Groups with colons between them. -/
def writeGroups (gs : List UInt16) : List Char :=
  (gs.map writeGroup).intersperse [':'] |>.flatten

/-- Four bytes in decimal with points between them. -/
def writeOctets (a b c d : UInt8) : List Char :=
  s!"{a}.{b}.{c}.{d}".toList

/-- The number of zero groups at the front. -/
def zeros (gs : List UInt16) : Nat :=
  (gs.takeWhile (· = 0)).length

/-- The place and length of the longest run of zero groups, the leftmost of several. -/
def longestZeros : (start : Nat) → List UInt16 → Nat × Nat
  | _, [] => (0, 0)
  | start, g :: gs =>
    let here := zeros (g :: gs)
    let later := longestZeros (start + 1) gs
    if later.2 ≤ here then (start, here) else later

/-- The groups of an IPv6 address with the longest run of zero groups left out. -/
def writeShort (gs : List UInt16) : List Char :=
  let (start, length) := longestZeros 0 gs
  if 1 < length then
    writeGroups (gs.take start) ++ [':', ':'] ++ writeGroups (gs.drop (start + length))
  else writeGroups gs

/-- The text of the groups of an IPv6 address. -/
def writeV6 (gs : List UInt16) : List Char :=
  match gs with
  | [0, 0, 0, 0, 0, 0xFFFF, g, h] =>
    "::ffff:".toList ++
      writeOctets (UInt8.ofNat (g.toNat / 256)) (UInt8.ofNat (g.toNat % 256))
        (UInt8.ofNat (h.toNat / 256)) (UInt8.ofNat (h.toNat % 256))
  | gs => writeShort gs

/-- The text of a socket address. -/
def text (a : SocketAddress) : String :=
  match a.ip with
  | .v4 w x y z => String.ofList (writeOctets w x y z) ++ s!":{a.port}"
  | .v6 gs zone =>
    let mark := if zone = 0 then "" else s!"%{zone}"
    "[" ++ String.ofList (writeV6 gs) ++ mark ++ s!"]:{a.port}"

end SocketAddress

end LogIntake.Net
