import LogIntake.Config.Service
import LogIntake.Embedding.Exchange
import LogIntake.Pipeline.Step
import LogIntake.Store.Connection

/-!
# Starting an instance

An instance loads its settings, installs the recorder of its metrics, waits for the store, makes
sure of the collection, makes a client for the embedding provider and checks the provider's health
once, starts the pipeline and opens the listener, in this order. Each part begins only if the parts
before it succeeded, with one exception: whether the provider is well changes nothing, as every
entry is retried on its own.

`start` says what comes of it when the others behave as `Surroundings` say, and what was asked of
them on the way. What goes to the log is left out, as it does not change what comes of a start.
-/

namespace LogIntake.Service

open Pipeline (World)

/-- Something that is asked of another program. -/
inductive Outgoing where
  | store (q : Store.Request)
  /-- The embedding of a text. -/
  | embed (text : String)
  deriving Repr

/-- Why an instance does not run. -/
inductive Failure where
  | settings (e : Config.SettingError)
  /-- The recorder of the metrics cannot be installed. -/
  | recorder (detail : String)
  | connection (f : Fault)
  | collection (f : Fault)
  /-- There is no client for the embedding provider. -/
  | provider (f : Fault)
  | pipeline (f : Fault)
  | address (e : Config.SettingError)
  /-- The listener cannot be opened. -/
  | listener (address : Net.SocketAddress) (detail : String)
  /-- The listener stopped. -/
  | server (detail : String)
  deriving DecidableEq, Repr

/-- What is reported of a failure, from what failed to the reason. -/
def Failure.chain : Failure → List String
  | .settings e => ["Failed to load configuration", e.message]
  | .recorder detail => ["Failed to install Prometheus recorder", detail]
  | .connection f => ["Failed to connect to Qdrant", f.message]
  | .collection f => ["Failed to prepare Qdrant collection", f.message]
  | .provider f => ["Failed to create embedding provider", f.message]
  | .pipeline f => ["Failed to start ingest pipeline", f.message]
  | .address e => [e.message]
  | .listener a detail => ["Failed to bind " ++ a.text, detail]
  | .server detail => ["HTTP server failed", detail]

/-- How the programs behave that an instance depends on. -/
structure Surroundings where
  /-- Whether a recorder for the metrics can be installed. -/
  recorder : Except String Unit := .ok ()
  /-- The answer to the `n`-th question for the store's health. -/
  check : Nat → Reply Unit
  /-- The answer to a request about the collection, after earlier ones, last one first. -/
  answer : (earlier : List Store.Request) → (q : Store.Request) → q.Answer
  /-- Whether a client for the provider can be made. -/
  provider : Except String Unit := .ok ()
  /-- The answer to the check of the provider's health. -/
  probe : Reply Unit
  /-- Whether the listener can be opened. -/
  listener : Except String Unit
  /-- The answers to what the pipeline asks. -/
  backend : Pipeline.Backend

/-- What an instance runs with. -/
structure Running where
  handle : Store.Handle
  address : Net.SocketAddress
  world : World

/-- What came of a start, which is `none` as long as it is not known and where the program broke,
and what was asked of others, in order. -/
structure Start where
  result : Option (Except Failure Running)
  requests : List Outgoing

/-- A start that failed. -/
def Start.failed (f : Failure) (requests : List Outgoing) : Start :=
  ⟨some (.error f), requests⟩

/-- The embedding client of an instance. -/
def clientOf (c : Config.Service) : Client where
  dimension := c.embedder.dimension
  timeout := c.embedder.timeout
  retry := c.embeddingRetry

/-- Opens the listener of a pipeline that has been started. -/
def listen (c : Config.Service) (s : Surroundings) (handle : Store.Handle) (world : World) :
    Except Failure Running := do
  let address ← c.listener.socketAddress.mapError .address
  let _ ← s.listener.mapError (.listener address)
  pure ⟨handle, address, world⟩

/-- Starts the pipeline and opens the listener; `none` where the pipeline cannot be made. -/
def launch (c : Config.Service) (s : Surroundings) (handle : Store.Handle) :
    Option (Except Failure Running) :=
  match World.launch c.pipeline (clientOf c) s.backend with
  | .gives world => some (listen c s handle world)
  | .fails f => some (.error (.pipeline f))
  | .breaks => none

/-- Makes a client for the provider, checks the provider's health and goes on. What comes of the
check is only reported. -/
def introduce (c : Config.Service) (s : Surroundings) (handle : Store.Handle)
    (asked : List Outgoing) : Start :=
  match s.provider with
  | .error detail =>
    .failed (.provider (.misconfigured ("embedding http client: " ++ detail))) asked
  | .ok _ =>
    let probe := (clientOf c).check s.probe 0
    let asked := asked ++ probe.attempts.map fun _ => .embed Config.Embedder.healthText
    match probe.result with
    | some (.gives _) | some (.fails _) => ⟨launch c s handle, asked⟩
    | some .breaks | none => ⟨none, asked⟩

/-- Makes sure of the collection and goes on. -/
def prepare (c : Config.Service) (s : Surroundings) (handle : Store.Handle)
    (asked : List Outgoing) : Start :=
  let r := handle.ensure.hold (fun q earlier => (s.answer earlier q, q :: earlier)) []
  let asked := asked ++ r.requests.map .store
  match r.result with
  | .error f => .failed (.collection f) asked
  | .ok _ => introduce c s handle asked

/-- Waits for the store for at most `fuel` steps and goes on. Making a handle asks for the store's
health once and ignores the answer. -/
def connect (c : Config.Service) (s : Surroundings) (fuel : Nat) : Start :=
  match Store.Handle.ofSettings c.store with
  | .error f => .failed (.connection f) []
  | .ok handle =>
    let t := Store.Connection.await c.store c.startupTimeout (fun n => s.check (n + 1)) 0 fuel
    let asked := List.replicate (t.attempts.length + 1) (.store .health)
    match t.result with
    | some (.gives _) => prepare c s handle asked
    | some (.fails f) => .failed (.connection f) asked
    | some .breaks | none => ⟨none, asked⟩

/-- Starts an instance with given settings. -/
def start (c : Config.Service) (s : Surroundings) (fuel : Nat) : Start :=
  match s.recorder with
  | .error detail => .failed (.recorder detail) []
  | .ok _ => connect c s fuel

/-- Starts an instance with the settings of an environment. -/
def startWith (processors : Nat) (vars : Config.Variables) (s : Surroundings) (fuel : Nat) :
    Start :=
  match Config.Service.ofVariables processors vars with
  | .error e => .failed (.settings e) []
  | .ok c => start c s fuel

end LogIntake.Service
