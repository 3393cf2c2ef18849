/-!
# Faults

A **fault** says why a line, a record or a call to a backend failed. Each fault has a label for
answers and metrics, a message for people, and a category that decides whether the failed call
is worth repeating: a **transient** fault may pass, a **permanent** one does not.
-/

namespace LogIntake

/-- Why something failed. -/
inductive Fault where
  /-- A line is no JSON text, or no JSON object. -/
  | malformedLine (line : Nat) (detail : String)
  /-- A line is a JSON object, but a field is missing or unusable. -/
  | invalidRecord (line : Nat) (detail : String)
  /-- One attempt to embed a text failed in a way that may pass. -/
  | embeddingFailed (detail : String)
  /-- The provider refused a text; another attempt would not help. -/
  | embeddingRejected (detail : String)
  /-- The provider gave a vector of the wrong length. -/
  | embeddingDimension (expected actual : Nat)
  /-- The provider still failed after the last attempt. -/
  | embeddingExhausted (attempts : UInt32) (detail : String)
  /-- A write to the store failed. -/
  | writeFailed (detail : String)
  /-- The store could not be reached. -/
  | storeUnreachable (detail : String)
  /-- The collection holds vectors of another length than the configured one. -/
  | collectionDimension (collection : String) (expected actual : Nat)
  /-- No room in a queue. -/
  | queueFull
  /-- The pipeline takes no more records. -/
  | closed
  /-- A setting is unusable. -/
  | misconfigured (detail : String)
  deriving DecidableEq, Repr

/-- Whether a failed call is worth repeating. -/
inductive Category where
  | transient
  | permanent
  deriving DecidableEq, Repr

namespace Fault

/-- The category of a fault. -/
def category : Fault → Category
  | .embeddingFailed _ | .writeFailed _ | .storeUnreachable _ | .queueFull => .transient
  | .malformedLine _ _ | .invalidRecord _ _ | .embeddingRejected _ | .embeddingDimension _ _
  | .embeddingExhausted _ _ | .collectionDimension _ _ _ | .closed
  | .misconfigured _ => .permanent

/-- Whether a fault may pass. -/
def isTransient (f : Fault) : Bool :=
  f.category = .transient

/-- The short name of a fault in answers and metric labels. -/
def label : Fault → String
  | .malformedLine _ _ => "parse_error"
  | .invalidRecord _ _ => "validation_error"
  | .embeddingFailed _ => "embedding_provider"
  | .embeddingRejected _ => "embedding_rejected"
  | .embeddingDimension _ _ => "embedding_dimension"
  | .embeddingExhausted _ _ => "embedding_unavailable"
  | .writeFailed _ => "storage_write"
  | .storeUnreachable _ => "storage_unreachable"
  | .collectionDimension _ _ _ => "collection_schema_mismatch"
  | .queueFull => "queue_full"
  | .closed => "shutting_down"
  | .misconfigured _ => "config"

/-- The message of a fault. -/
def message : Fault → String
  | .malformedLine line detail => s!"line {line}: invalid JSON: {detail}"
  | .invalidRecord line detail => s!"line {line}: {detail}"
  | .embeddingFailed detail => s!"Embedding provider error: {detail}"
  | .embeddingRejected detail => s!"Embedding request rejected: {detail}"
  | .embeddingDimension expected actual =>
    s!"Embedding dimension mismatch: expected {expected}, got {actual}"
  | .embeddingExhausted attempts detail =>
    s!"Embedding provider unavailable after {attempts} attempts: {detail}"
  | .writeFailed detail => s!"Storage write failed: {detail}"
  | .storeUnreachable detail => s!"Storage unreachable: {detail}"
  | .collectionDimension collection expected actual =>
    s!"Collection '{collection}' has vector dimension {actual}, " ++
      s!"configured dimension is {expected}"
  | .queueFull => "Inbound queue is full"
  | .closed => "Pipeline is shutting down"
  | .misconfigured detail => s!"Configuration error: {detail}"

/-- The line of a request body that a fault is about. -/
def line? : Fault → Option Nat
  | .malformedLine line _ | .invalidRecord line _ => some line
  | _ => none

end Fault

end LogIntake
