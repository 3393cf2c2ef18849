import LogIntake.Net.Address
import LogIntake.Net.Host.Name
import LogIntake.Text.Utf8

/-!
# Hosts

A host in a URL is an IPv6 address in brackets or a name, in which characters may be written with
percent signs, byte by byte. A name whose last part is a number must be an IPv4 address. Its parts
may be hexadecimal, octal or decimal, and the last one stands for all bytes that are missing.
-/

namespace LogIntake.Net

/-- A host. -/
inductive Host where
  /-- A name in its form in ASCII. -/
  | name (s : List Char)
  | ip (address : Ip)
  deriving DecidableEq, Repr

namespace Host

/-- The bytes of a text, with those that percent signs stand for. -/
def percentDecoded : List Char → List UInt8
  | '%' :: a :: b :: rest =>
    match SocketAddress.digit? 16 a, SocketAddress.digit? 16 b with
    | some x, some y => UInt8.ofNat (x * 16 + y) :: percentDecoded rest
    | _, _ => 0x25 :: percentDecoded (a :: b :: rest)
  | c :: rest => Text.Utf8.encode c.toString ++ percentDecoded rest
  | [] => []

/-! ### IPv4 -/

/-- The parts of a name; a point at the end does not count. -/
def parts (name : List Char) : List (List Char) :=
  let ps := Name.split name
  match ps.reverse with
  | [] :: p :: rest => (p :: rest).reverse
  | _ => ps

/-- The value of digits in a base, if they are all digits of it. -/
def value? (base : Nat) (digits : List Char) : Option Nat :=
  digits.foldlM (fun n c => (SocketAddress.digit? base c).map (n * base + ·)) 0

/-- The value of a part of an IPv4 address. -/
def number? : List Char → Option Nat
  | [] => none
  | '0' :: x :: rest => if x = 'x' ∨ x = 'X' then value? 16 rest else value? 8 (x :: rest)
  | digits => value? 10 digits

/-- Whether a part of a name is a number, or would be one in base ten. -/
def isNumber (part : List Char) : Bool :=
  !part.isEmpty && part.all Char.isDigit || (number? part).isSome

/-- The bytes of a number below a power of 256, the highest first. -/
def bytes : (count : Nat) → Nat → List Nat
  | 0, _ => []
  | count + 1, n => bytes count (n / 256) ++ [n % 256]

/-- The IPv4 address that some parts are. -/
def v4? (ps : List (List Char)) : Option Ip := do
  match (← ps.mapM number?).reverse with
  | last :: front =>
    let missing := 4 - front.length
    if front.length < 4 && front.all (· < 256) && last < Nat.pow 256 missing then
      match (front.reverse ++ bytes missing last).map UInt8.ofNat with
      | [a, b, c, d] => some (.v4 a b c d)
      | _ => none
    else none
  | [] => none

/-! ### The whole -/

/-- The host that a name is. -/
def ofName? (name : List Char) : Option Host :=
  let ps := parts name
  if name.isEmpty then none
  else if ps.getLast?.any isNumber then (v4? ps).map .ip
  else some (.name name)

/-- The host that a text is. -/
def ofText? : List Char → Option Host
  | '[' :: rest =>
    match SocketAddress.groups? rest with
    | some (groups, [']']) => some (.ip (.v6 groups 0))
    | _ => none
  | s => do
    let decoded ← Text.Utf8.decode? (percentDecoded s)
    ofName? (← Name.ascii? decoded.toList)

/-- The text of a host. -/
def text : Host → String
  | .name s => String.ofList s
  | .ip (.v4 a b c d) => String.ofList (SocketAddress.writeOctets a b c d)
  | .ip (.v6 groups _) => "[" ++ String.ofList (SocketAddress.writeShort groups) ++ "]"

end Host

end LogIntake.Net
