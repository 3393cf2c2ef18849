import LogIntake.Config.Variables

/-!
# Settings of the embedding provider

Where texts are sent to be embedded, with which model, and how long the vectors are.
-/

namespace LogIntake.Config

/-- How an embedding provider is reached. -/
structure Embedder where
  baseUrl : String
  apiKey : Option String
  model : String
  dimension : Nat
  /-- Whether requests name the length of the vectors. -/
  sendDimensions : Bool
  /-- How long one request may take, in milliseconds. -/
  timeout : Nat
  deriving DecidableEq, Repr

namespace Embedder

/-- The model that is asked for where none is named. -/
def standardModel : String := "text-embedding-3-small"

/-- A provider without a key, with the standard model and a timeout of 10 s. -/
def standard (baseUrl : String) (dimension : Nat) : Embedder :=
  ⟨baseUrl, none, standardModel, dimension, true, 10000⟩

/-- The settings that the variables name. -/
def ofVariables (vars : Variables) : Except SettingError Embedder := do
  let dimension ← vars.positiveOr "EMBEDDING_DIMENSION" Number.word64 1536
  let timeout ← vars.positiveOr "EMBEDDING_TIMEOUT_MS" Number.word64 10000
  let sendDimensions ← vars.readOr "EMBEDDING_SEND_DIMENSIONS" readBool true
  pure {
    baseUrl := vars.textOr "EMBEDDING_URL" "https://api.openai.com/v1"
    apiKey := vars.nonBlank? "EMBEDDING_API_KEY"
    model := vars.textOr "EMBEDDING_MODEL" standardModel
    dimension
    sendDimensions
    timeout }

end Embedder

end LogIntake.Config
