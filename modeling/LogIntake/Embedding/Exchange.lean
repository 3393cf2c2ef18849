import LogIntake.Call
import LogIntake.Config.Embedder
import LogIntake.Embedding.Document
import LogIntake.Json.Writer
import LogIntake.Net.Header
import LogIntake.Net.Status
import LogIntake.Net.Uri
import LogIntake.Net.Url

/-!
# Asking a provider over HTTP

A text is sent to the provider in a **query**, a `POST` request with a JSON body. An **exchange**
is what becomes of it: the provider answers, or the connection fails. `Exchange.response` says
what an exchange comes to. What a failed connection or a fault of the provider prevented is worth
another attempt; what the provider refuses, or answers in a way that cannot be read, is not.
-/

namespace LogIntake

/-- A request to embed a text. -/
structure Query where
  url : String
  /-- The key that the request shows, if there is one. -/
  bearer : Option String
  body : String
  deriving DecidableEq, Repr

namespace Config.Embedder

/-- What a provider that is asked over HTTP is called. -/
def providerName : String := "openai-compatible"

/-- Where texts are sent: below the base URL, whose slashes at the end do not count. -/
def url (e : Embedder) : String :=
  String.ofList (e.baseUrl.toList.reverse.dropWhile (· = '/')).reverse ++ "/embeddings"

/-- The request to embed a text. -/
def query (e : Embedder) (text : String) : Query where
  url := e.url
  bearer := e.apiKey
  body := Json.render (.obj ([("model", .str e.model), ("input", .arr [.str text])] ++
    if e.sendDimensions then [("dimensions", .nat e.dimension)] else []))

/-- The text that the health of a provider is checked with. -/
def healthText : String := "health check"

end Config.Embedder

/-- What becomes of a query. -/
inductive Exchange where
  /-- The provider answers. -/
  | answered (status : Net.Status) (body : List UInt8)
  /-- The connection fails, or its time is over, after the status and before the end of the
  body. -/
  | cut (status : Net.Status) (detail : String)
  /-- The connection fails, or its time is over, before there is a status. -/
  | lost (detail : String)
  deriving DecidableEq, Repr

/-- Why a query cannot be written down. -/
inductive Query.Flaw where
  /-- The URL is none of a web server, or the key cannot stand in a header field. -/
  | malformed
  /-- The text of the URL is no URI: not every host that a URL may name can stand in one. -/
  | noUri (url : Net.Url)
  deriving DecidableEq, Repr

/-- The wording of a flaw. -/
def Query.Flaw.message : Flaw → String
  | .malformed => "builder error"
  | .noUri url => s!"builder error for url ({url.text})"

/-- What keeps a query from being written down, if anything does. -/
def Query.flaw? (q : Query) : Option Query.Flaw :=
  match Net.Url.ofText? q.url with
  | none => some .malformed
  | some url =>
    if !q.bearer.all Net.Header.isValue then some .malformed
    else if Net.Uri.isValid url.text then none
    else some (.noUri url)

namespace Exchange

/-- What becomes of a query on a network that does `sent` to it. A query that cannot be written
down is not sent. -/
def ofQuery (q : Query) (sent : Exchange) : Exchange :=
  match q.flaw? with
  | none => sent
  | some flaw => .lost flaw.message

/-- The fault of a body that cannot be read. -/
def malformed (detail : String) : Fault :=
  .embeddingRejected s!"malformed response: {detail}"

/-- The fault of a status that is no success. -/
def refusal (status : Net.Status) (body : String) : Fault :=
  let detail := s!"embedding API error ({status.text}): {body}"
  if status.mayPass then .embeddingFailed detail else .embeddingRejected detail

/-- The first embedding in a body. -/
def embedding (body : List UInt8) : Response Embedding :=
  match (Json.Tree.ofBytes? body).bind Embedding.ofDocument? with
  | none => .fails (malformed "error decoding response body")
  | some [] => .fails (.embeddingRejected "no embedding returned")
  | some (v :: _) => .gives v

/-- What an exchange comes to. A body that is cut off cannot be read; where only its text is
shown it counts as empty. -/
def response : Exchange → Response Embedding
  | .answered status body =>
    if status.isSuccess then embedding body
    else .fails (refusal status (Text.Utf8.decodeLossy body))
  | .cut status detail =>
    if status.isSuccess then .fails (malformed detail) else .fails (refusal status "")
  | .lost detail => .fails (.embeddingFailed detail)

/-- What an exchange to check the provider's health comes to: any embedding will do. -/
def health (e : Exchange) : Response Unit :=
  match e.response with
  | .gives _ => .gives ()
  | .fails f => .fails f
  | .breaks => .breaks

end Exchange

end LogIntake
