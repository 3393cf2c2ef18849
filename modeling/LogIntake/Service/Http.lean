import LogIntake.Json.Writer
import LogIntake.Net.Header
import LogIntake.Net.Uri

/-!
# Requests and responses

What the service needs of HTTP: a request with its method, target, headers and body, and a
response with its status, the few headers that the service sets, and its body.
-/

namespace LogIntake.Service

/-- A request. -/
structure Request where
  method : String
  /-- The URI that is asked for, of which only the path matters. -/
  target : String
  headers : List (String × String)
  body : List UInt8

/-- The body of a response. -/
inductive Body where
  | none
  | text (s : String)
  | json (v : Json)
  deriving DecidableEq, Repr

/-- A response. -/
structure Response where
  status : Nat
  contentType : Option String
  retryAfter : Option String
  allow : Option String
  body : Body
  deriving DecidableEq, Repr

namespace Request

/-- Whether a request can be written down. -/
def isWellFormed (r : Request) : Bool :=
  Net.Header.isToken r.method && Net.Uri.isValid r.target &&
    r.headers.all fun h => Net.Header.isToken h.1 && Net.Header.isValue h.2

/-- The path of a request. -/
def path (r : Request) : String :=
  (Net.Uri.path? r.target).getD ""

/-- The value of the first header with a name, which is given in lower case. -/
def header? (r : Request) (name : String) : Option String :=
  (r.headers.find? fun h => h.1.toList.map Char.toLower = name.toList).map (·.2)

end Request

namespace Response

/-- A response without a body. -/
def bare (status : Nat) : Response :=
  ⟨status, none, none, none, .none⟩

/-- A response with a text of a type. -/
def text (status : Nat) (contentType s : String) : Response :=
  ⟨status, some contentType, none, none, .text s⟩

/-- A response with a plain text. -/
def plain (status : Nat) (s : String) : Response :=
  text status "text/plain; charset=utf-8" s

/-- A response with a JSON value. -/
def json (status : Nat) (v : Json) : Response :=
  ⟨status, some "application/json", none, none, .json v⟩

/-- A response without its body. -/
def headOnly (r : Response) : Response :=
  { r with body := .none }

end Response

end LogIntake.Service
