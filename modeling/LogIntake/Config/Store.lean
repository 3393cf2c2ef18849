import LogIntake.Config.Variables

/-!
# Settings of the vector store

Where points are stored, in which collection, and how long their vectors are.
-/

namespace LogIntake.Config

/-- How a vector store is reached. -/
structure Store where
  url : String
  apiKey : Option String
  /-- How long one request may take, in seconds. -/
  timeoutSeconds : Nat
  collection : String
  dimension : Nat
  deriving DecidableEq, Repr

namespace Store

/-- The collection `logs` of a store on this machine. -/
def standard : Store :=
  ⟨"http://localhost:6334", none, 30, "logs", 1536⟩

/-- The settings that the variables name, with the standard dimension. -/
def ofVariables (vars : Variables) : Except SettingError Store := do
  let collection := vars.textOr "QDRANT_COLLECTION" standard.collection
  if Text.isBlankText collection then
    throw (.unusable "QDRANT_COLLECTION" "must not be empty")
  let timeoutSeconds ← vars.natOr "QDRANT_TIMEOUT_SECS" Number.word64 standard.timeoutSeconds
  pure {
    url := vars.textOr "QDRANT_URL" standard.url
    apiKey := vars.nonBlank? "QDRANT_API_KEY"
    timeoutSeconds
    collection
    dimension := standard.dimension }

end Store

end LogIntake.Config
