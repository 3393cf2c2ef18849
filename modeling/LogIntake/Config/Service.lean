import LogIntake.Config.Embedder
import LogIntake.Config.Listener
import LogIntake.Config.Stage
import LogIntake.Config.Store
import LogIntake.Pipeline.Settings

/-!
# Settings of the service

All settings of an instance, read from the environment once. `Service.ofVariables` reads them in
a fixed order and stops at the first one that is unusable. The store takes vectors of the length
that the embedding provider gives.
-/

namespace LogIntake.Config

open Number (Single word32 word64)

/-- The name and version that an instance reports. -/
structure Identity where
  name : String
  version : String
  deriving DecidableEq, Repr

/-- The name and version of this program. -/
def Identity.current : Identity := ⟨"zerg_log_ingest", "0.1.0"⟩

/-- The settings of an instance; times are in milliseconds. -/
structure Service where
  identity : Identity
  stage : Stage
  listener : Listener
  pipeline : Pipeline.Settings
  embedder : Embedder
  embeddingRetry : Backoff
  store : Store
  /-- How long to wait for the store at the start. -/
  startupTimeout : Nat
  maxBodyBytes : Nat
  deriving DecidableEq, Repr

namespace Service

/-- The names of the variables that settings are read from. -/
def variableNames : List String :=
  ["APP_ENV", "HOST", "PORT", "EMBEDDING_DIMENSION", "EMBEDDING_TIMEOUT_MS",
    "EMBEDDING_SEND_DIMENSIONS", "EMBEDDING_URL", "EMBEDDING_API_KEY", "EMBEDDING_MODEL",
    "QDRANT_COLLECTION", "QDRANT_TIMEOUT_SECS", "QDRANT_URL", "QDRANT_API_KEY",
    "SIMILARITY_THRESHOLD", "MIN_EXAMPLES_BEFORE_EXCLUSION", "DEDUP_WINDOW_SIZE",
    "DEDUP_WINDOW_TTL_SECS", "DEDUP_MAX_STREAMS", "WORKER_COUNT", "QUEUE_CAPACITY",
    "BATCH_SIZE", "BATCH_TIMEOUT_MS", "ENQUEUE_TIMEOUT_MS", "FLUSH_MAX_RETRIES",
    "SHUTDOWN_TIMEOUT_SECS", "EMBEDDING_MAX_RETRIES", "STARTUP_TIMEOUT_SECS",
    "MAX_BODY_BYTES"]

/-- Deduplication at a cosine of 0.95 within an hour. -/
def standardDedup : DedupSettings := ⟨⟨0x3F733333⟩, 3, 1000, 3600000, 1000⟩

/-- The settings of a pipeline with one worker for each processor. -/
def standardPipeline (processors : Nat) : Pipeline.Settings where
  workers := processors
  queueCapacity := 10000
  enqueueTimeout := 100
  maxBatchSize := 100
  maxBatchAge := 5000
  flushRetry := .standard
  shutdownTimeout := 30000
  dedup := standardDedup

/-- The similarity threshold, which lies above zero and is at most one. -/
def thresholdOf (vars : Variables) : Except SettingError Single := do
  let t ← vars.readOr "SIMILARITY_THRESHOLD" readSingle standardDedup.threshold
  if Single.zero.lt t && t.le .one then pure t
  else throw (.unusable "SIMILARITY_THRESHOLD" (t.print ++ " is outside (0, 1]"))

/-- The settings of deduplication. -/
def dedupOf (vars : Variables) : Except SettingError DedupSettings := do
  let threshold ← thresholdOf vars
  let minExamples ← vars.positiveOr "MIN_EXAMPLES_BEFORE_EXCLUSION" word32 3
  let maxEntries ← vars.positiveOr "DEDUP_WINDOW_SIZE" word64 standardDedup.maxEntries
  let maxAge ← vars.positiveOr "DEDUP_WINDOW_TTL_SECS" word64 3600
  let maxStreams ← vars.positiveOr "DEDUP_MAX_STREAMS" word64 standardDedup.maxStreams
  pure ⟨threshold, UInt32.ofNat minExamples, maxEntries, maxAge * 1000, maxStreams⟩

/-- The standard backoff with as many retries as a variable says. -/
def backoffOf (vars : Variables) (key : String) : Except SettingError Backoff := do
  let n ← vars.natOr key word32 3
  pure { Backoff.standard with maxRetries := UInt32.ofNat n }

/-- The settings of the pipeline. -/
def pipelineOf (processors : Nat) (vars : Variables) :
    Except SettingError Pipeline.Settings := do
  let standard := standardPipeline processors
  let dedup ← dedupOf vars
  let workers ← vars.positiveOr "WORKER_COUNT" word64 standard.workers
  let queueCapacity ← vars.positiveOr "QUEUE_CAPACITY" word64 standard.queueCapacity
  let maxBatchSize ← vars.positiveOr "BATCH_SIZE" word64 standard.maxBatchSize
  let maxBatchAge ← vars.positiveOr "BATCH_TIMEOUT_MS" word64 standard.maxBatchAge
  let enqueueTimeout ← vars.positiveOr "ENQUEUE_TIMEOUT_MS" word64 standard.enqueueTimeout
  let flushRetry ← backoffOf vars "FLUSH_MAX_RETRIES"
  let shutdownSeconds ← vars.natOr "SHUTDOWN_TIMEOUT_SECS" word64 30
  pure {
    workers, queueCapacity, enqueueTimeout, maxBatchSize, maxBatchAge, flushRetry
    shutdownTimeout := shutdownSeconds * 1000
    dedup }

/-- The settings that the variables name, on a machine with a number of processors. -/
def ofVariables (processors : Nat) (vars : Variables) : Except SettingError Service := do
  let stage := Stage.ofVariables vars
  let listener ← Listener.ofVariables vars
  let _ ← listener.socketAddress
  let embedder ← Embedder.ofVariables vars
  let store ← Store.ofVariables vars
  let pipeline ← pipelineOf processors vars
  let embeddingRetry ← backoffOf vars "EMBEDDING_MAX_RETRIES"
  let startupSeconds ← vars.positiveOr "STARTUP_TIMEOUT_SECS" word64 60
  let maxBodyBytes ← vars.positiveOr "MAX_BODY_BYTES" word64 (10 * 1024 * 1024)
  pure {
    identity := .current
    stage, listener, pipeline, embedder, embeddingRetry
    store := { store with dimension := embedder.dimension }
    startupTimeout := startupSeconds * 1000
    maxBodyBytes }

end Service

end LogIntake.Config
