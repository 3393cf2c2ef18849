import LogIntake.Net.Host

/-!
# URLs of web servers

A URL of a web server names a place that an HTTP request can be sent to: `http` or `https`, a
host, perhaps with a user before it and a port behind it, and then a path, a query and a fragment.
Readers of such texts are lenient: blanks around the text, tabs and line breaks do not count, a
backslash is as good as a slash, and there may be any number of slashes before the host.

A URL has one text, in which the port is left out where the scheme implies it, points in the path
are resolved, and what may not stand in a part is written with percent signs. The user is not part
of it, for requests name the user elsewhere.
-/

namespace LogIntake.Net

/-- The URL of a web server, without a user. -/
structure Url where
  /-- Whether the scheme is `https`. -/
  secure : Bool
  host : Host
  /-- The port, unless it is the one that the scheme implies. -/
  port : Option Nat
  /-- What stands between the slashes of the path. -/
  path : List (List Char)
  query : Option (List Char)
  fragment : Option (List Char)
  deriving DecidableEq, Repr

namespace Url

/-! ### Characters -/

/-- Whether a character does not count anywhere in a URL. -/
def isSkipped (c : Char) : Bool :=
  c = '\t' || c = '\n' || c = '\r'

/-- Whether a character does not count at either end of a URL. -/
def isBlank (c : Char) : Bool :=
  c.toNat ≤ 0x20

/-- The characters of a URL that count. -/
def cleaned (s : List Char) : List Char :=
  ((s.dropWhile isBlank).reverse.dropWhile isBlank).reverse.filter fun c => !isSkipped c

/-- Whether a character is a slash or as good as one. -/
def isSlash (c : Char) : Bool :=
  c = '/' || c = '\\'

/-- Whether a character ends the path of a URL. -/
def endsPath (c : Char) : Bool :=
  c = '?' || c = '#'

/-- Whether a character ends the part of a URL that names the server. -/
def endsServer (c : Char) : Bool :=
  isSlash c || endsPath c

/-- A text in which a character is written with percent signs, byte by byte, if it is not ASCII, a
control character, a blank or one of `others`. -/
def escaped (others : String) (s : List Char) : List Char :=
  s.flatMap fun c =>
    if c.toNat ≤ 0x20 || 0x7F ≤ c.toNat || others.toList.contains c then
      (Text.Utf8.encode c.toString).flatMap fun b =>
        '%' :: (Json.hexDigits 2 b.toNat).map Char.toUpper
    else [c]

/-! ### Paths -/

/-- Whether a part of a path stands for the place where it is. -/
def isHere (part : List Char) : Bool :=
  [".", "%2e"].contains (String.ofList (part.map Char.toLower))

/-- Whether a part of a path stands for the place above. -/
def isAbove (part : List Char) : Bool :=
  ["..", ".%2e", "%2e.", "%2e%2e"].contains (String.ofList (part.map Char.toLower))

/-- Whether a part of a path names a drive, above which there is nothing. -/
def isDrive : List Char → Bool
  | [letter, sign] => letter.isAlpha && (sign = ':' || sign = '|')
  | _ => false

/-- The place above the one that some parts lead to, the last one first. -/
def above : List (List Char) → List (List Char)
  | part :: rest => if isDrive part then part :: rest else rest
  | [] => []

/-- Resolves the parts of a path that stand for the place where they are or the place above;
`passed` are the parts before them, the last one first. -/
def resolved (passed : List (List Char)) : List (List Char) → List (List Char)
  | [] => passed.reverse
  | part :: rest =>
    let next := if isAbove part then above passed else if isHere part then passed
      else part :: passed
    let isOpen := rest.isEmpty && (isAbove part || isHere part)
    resolved (if isOpen then [] :: next else next) rest

/-- The parts of a path, which may begin with a slash. -/
def pathOf (s : List Char) : List (List Char) :=
  let s := s.map fun c => if isSlash c then '/' else c
  let parts := (if s.head? = some '/' then s.drop 1 else s).splitOn '/'
  resolved [] (parts.map (escaped "\"#<>?\x60\x7b\x7d"))

/-! ### Reading -/

/-- Whether the scheme of a URL is the secure one, and what is left behind it and the slashes
after it. -/
def scheme? (s : List Char) : Option (Bool × List Char) :=
  let scheme := String.ofList ((s.takeWhile (· ≠ ':')).map Char.toLower)
  match s.dropWhile (· ≠ ':') with
  | ':' :: rest =>
    if scheme = "http" then some (false, rest.dropWhile isSlash)
    else if scheme = "https" then some (true, rest.dropWhile isSlash)
    else none
  | _ => none

/-- What is left of a text behind its last at sign. -/
def afterUser (s : List Char) : List Char :=
  (s.reverse.takeWhile (· ≠ '@')).reverse

/-- The port that a scheme implies. -/
def impliedPort (secure : Bool) : Nat :=
  if secure then 443 else 80

/-- A port behind a colon; there may be nothing, and nothing behind the colon. -/
def port? : List Char → Option (Option Nat)
  | [] | [':'] => some none
  | ':' :: digits =>
    match Host.value? 10 digits with
    | some n => if n < Number.word16 then some (some n) else none
    | none => none
  | _ => none

/-- What comes before the port: a text in brackets, with all up to a colon behind it, or all up to
a colon. -/
def hostPart (s : List Char) : List Char :=
  let inBrackets := if s.head? = some '[' then s.takeWhile (· ≠ ']') else []
  inBrackets ++ (s.drop inBrackets.length).takeWhile (· ≠ ':')

/-- The URL of a web server that a text is. -/
def ofText? (text : String) : Option Url := do
  let (secure, s) ← scheme? (cleaned text.toList)
  let server := s.takeWhile fun c => !endsServer c
  let hostAndPort := afterUser server
  let part := hostPart hostAndPort
  let host ← Host.ofText? part
  let port ← port? (hostAndPort.drop part.length)
  let s := s.drop server.length
  let path := s.takeWhile fun c => !endsPath c
  let s := s.drop path.length
  let query := s.takeWhile (· ≠ '#')
  let fragment := s.drop query.length
  pure {
    secure, host
    port := port.filter (· ≠ impliedPort secure)
    path := pathOf path
    query := if query.isEmpty then none else some (escaped "\"#<>'" (query.drop 1))
    fragment := if fragment.isEmpty then none else some (escaped "\"<>\x60" (fragment.drop 1)) }

/-! ### Writing -/

/-- A part of a URL behind the sign that it begins with. -/
def marked (sign : Char) : Option (List Char) → String
  | some s => String.ofList (sign :: s)
  | none => ""

/-- The text of a URL. -/
def text (u : Url) : String :=
  let scheme := if u.secure then "https" else "http"
  let port := match u.port with
    | some n => s!":{n}"
    | none => ""
  let path := String.ofList (u.path.flatMap ('/' :: ·))
  scheme ++ "://" ++ u.host.text ++ port ++ path ++ marked '?' u.query ++ marked '#' u.fragment

end Url

end LogIntake.Net
