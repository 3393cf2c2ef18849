import LogIntake.Config.Service
import LogIntake.Proofs.Config.Variables

/-!
# What settings are loaded from

Each part of the settings is loaded by reading its variables one after another, and stops at the
first that is unusable. So settings that are there tell what every variable was read as. That is
stated once for each part, as the structure `ReadFrom` of the part, and `Service.ReadFrom` puts
the parts together; everything about loaded settings is derived from it.

A variable is only looked at as a text. What is set to bytes that are no text is therefore as if
it were not set (`Service.ofVariables_unset`), whatever it is a variable for.
-/

namespace LogIntake.Config

open Number (Single word16 word32 word64)

variable {vars : Variables} {processors : Nat}

/-! ### The parts -/

/-- Where a listener comes from. -/
structure Listener.ReadFrom (vars : Variables) (l : Listener) : Prop where
  host : l.host = vars.textOr "HOST" anyHost
  port : vars.natOr "PORT" word16 8080 = .ok l.port.toNat

theorem Listener.readFrom {l : Listener} (h : Listener.ofVariables vars = .ok l) :
    l.ReadFrom vars := by
  obtain ⟨port, hport, h⟩ := bind_eq_ok.mp h
  obtain rfl := Except.ok.inj h
  have hlt : port < word16 := by
    obtain rfl | hlt := Variables.eq_or_lt_of_natOr hport
    · decide
    · exact hlt
  refine ⟨rfl, hport.trans ?_⟩
  rw [UInt16.toNat_ofNat', Nat.mod_eq_of_lt hlt]

/-- Where the settings of the provider come from. -/
structure Embedder.ReadFrom (vars : Variables) (e : Embedder) : Prop where
  dimension : vars.positiveOr "EMBEDDING_DIMENSION" word64 1536 = .ok e.dimension
  timeout : vars.positiveOr "EMBEDDING_TIMEOUT_MS" word64 10000 = .ok e.timeout
  sendDimensions : vars.readOr "EMBEDDING_SEND_DIMENSIONS" readBool true = .ok e.sendDimensions

theorem Embedder.readFrom {e : Embedder} (h : Embedder.ofVariables vars = .ok e) :
    e.ReadFrom vars := by
  obtain ⟨dimension, hdimension, h⟩ := bind_eq_ok.mp h
  obtain ⟨timeout, htimeout, h⟩ := bind_eq_ok.mp h
  obtain ⟨sendDimensions, hsend, h⟩ := bind_eq_ok.mp h
  obtain rfl := Except.ok.inj h
  exact ⟨hdimension, htimeout, hsend⟩

/-- Where the settings of the store come from. -/
structure Store.ReadFrom (vars : Variables) (s : Store) : Prop where
  collection : s.collection = vars.textOr "QDRANT_COLLECTION" standard.collection
  notBlank : ¬ Text.isBlankText s.collection
  timeout : vars.natOr "QDRANT_TIMEOUT_SECS" word64 standard.timeoutSeconds = .ok s.timeoutSeconds

theorem Store.readFrom {s : Store} (h : Store.ofVariables vars = .ok s) : s.ReadFrom vars := by
  rw [Store.ofVariables] at h
  dsimp only at h
  split at h
  · cases h
  · rename_i hblank
    obtain ⟨timeout, htimeout, h⟩ := bind_eq_ok.mp h
    obtain rfl := Except.ok.inj h
    exact ⟨rfl, hblank, htimeout⟩

namespace Service

/-- Where the settings of deduplication come from. -/
structure DedupFrom (vars : Variables) (d : DedupSettings) : Prop where
  threshold : vars.readOr "SIMILARITY_THRESHOLD" readSingle standardDedup.threshold =
    .ok d.threshold
  inRange : Single.zero.lt d.threshold ∧ d.threshold.le .one
  minExamples : vars.positiveOr "MIN_EXAMPLES_BEFORE_EXCLUSION" word32 3 = .ok d.minExamples.toNat
  maxEntries : vars.positiveOr "DEDUP_WINDOW_SIZE" word64 standardDedup.maxEntries =
    .ok d.maxEntries
  maxAge : ∃ seconds, vars.positiveOr "DEDUP_WINDOW_TTL_SECS" word64 3600 = .ok seconds ∧
    d.maxAge = seconds * 1000
  maxStreams : vars.positiveOr "DEDUP_MAX_STREAMS" word64 standardDedup.maxStreams =
    .ok d.maxStreams

/-- A number of 32 bits is the number that was read. -/
theorem toNat_of_natOr {key : String} {n : Nat} (h : vars.natOr key word32 3 = .ok n) :
    (UInt32.ofNat n).toNat = n := by
  have hlt : n < word32 := by
    obtain rfl | hlt := Variables.eq_or_lt_of_natOr h
    · decide
    · exact hlt
  rw [UInt32.toNat_ofNat', Nat.mod_eq_of_lt hlt]

theorem threshold_eq_ok {t : Single} (h : thresholdOf vars = .ok t) :
    vars.readOr "SIMILARITY_THRESHOLD" readSingle standardDedup.threshold = .ok t ∧
      Single.zero.lt t ∧ t.le .one := by
  obtain ⟨t', ht, h⟩ := bind_eq_ok.mp h
  split at h
  · rename_i hrange
    obtain rfl := Except.ok.inj h
    exact ⟨ht, Bool.and_eq_true_iff.mp hrange⟩
  · cases h

theorem dedupFrom {d : DedupSettings} (h : dedupOf vars = .ok d) : DedupFrom vars d := by
  obtain ⟨threshold, hthreshold, h⟩ := bind_eq_ok.mp h
  obtain ⟨minExamples, hmin, h⟩ := bind_eq_ok.mp h
  obtain ⟨maxEntries, hentries, h⟩ := bind_eq_ok.mp h
  obtain ⟨seconds, hseconds, h⟩ := bind_eq_ok.mp h
  obtain ⟨maxStreams, hstreams, h⟩ := bind_eq_ok.mp h
  obtain rfl := Except.ok.inj h
  obtain ⟨hread, hrange⟩ := threshold_eq_ok hthreshold
  have hword := toNat_of_natOr (Variables.positiveOr_eq_ok.mp hmin).1
  exact ⟨hread, hrange, hmin.trans (congrArg _ hword.symm), hentries, ⟨seconds, hseconds, rfl⟩,
    hstreams⟩

/-- A backoff is the standard one with the number of retries that a variable says. -/
theorem backoff_eq_ok {key : String} {b : Backoff} (h : backoffOf vars key = .ok b) :
    vars.natOr key word32 3 = .ok b.maxRetries.toNat ∧
      b = { Backoff.standard with maxRetries := b.maxRetries } := by
  obtain ⟨n, hn, h⟩ := bind_eq_ok.mp h
  obtain rfl := Except.ok.inj h
  exact ⟨hn.trans (congrArg _ (toNat_of_natOr hn).symm), rfl⟩

/-- Where the settings of the pipeline come from. -/
structure PipelineFrom (processors : Nat) (vars : Variables) (s : Pipeline.Settings) : Prop where
  dedup : DedupFrom vars s.dedup
  workers : vars.positiveOr "WORKER_COUNT" word64 processors = .ok s.workers
  queueCapacity : vars.positiveOr "QUEUE_CAPACITY" word64 10000 = .ok s.queueCapacity
  maxBatchSize : vars.positiveOr "BATCH_SIZE" word64 100 = .ok s.maxBatchSize
  maxBatchAge : vars.positiveOr "BATCH_TIMEOUT_MS" word64 5000 = .ok s.maxBatchAge
  enqueueTimeout : vars.positiveOr "ENQUEUE_TIMEOUT_MS" word64 100 = .ok s.enqueueTimeout
  flushRetry : vars.natOr "FLUSH_MAX_RETRIES" word32 3 = .ok s.flushRetry.maxRetries.toNat
  shutdownTimeout : ∃ seconds, vars.natOr "SHUTDOWN_TIMEOUT_SECS" word64 30 = .ok seconds ∧
    s.shutdownTimeout = seconds * 1000

theorem pipelineFrom {s : Pipeline.Settings} (h : pipelineOf processors vars = .ok s) :
    PipelineFrom processors vars s := by
  obtain ⟨dedup, hdedup, h⟩ := bind_eq_ok.mp h
  obtain ⟨workers, hworkers, h⟩ := bind_eq_ok.mp h
  obtain ⟨queueCapacity, hqueue, h⟩ := bind_eq_ok.mp h
  obtain ⟨maxBatchSize, hsize, h⟩ := bind_eq_ok.mp h
  obtain ⟨maxBatchAge, hage, h⟩ := bind_eq_ok.mp h
  obtain ⟨enqueueTimeout, henqueue, h⟩ := bind_eq_ok.mp h
  obtain ⟨flushRetry, hflush, h⟩ := bind_eq_ok.mp h
  obtain ⟨seconds, hseconds, h⟩ := bind_eq_ok.mp h
  obtain rfl := Except.ok.inj h
  exact ⟨dedupFrom hdedup, hworkers, hqueue, hsize, hage, henqueue, (backoff_eq_ok hflush).1,
    ⟨seconds, hseconds, rfl⟩⟩

/-! ### All settings -/

/-- Where the settings of an instance come from. -/
structure ReadFrom (processors : Nat) (vars : Variables) (c : Service) : Prop where
  listener : c.listener.ReadFrom vars
  address : ∃ a, c.listener.socketAddress = .ok a
  embedder : c.embedder.ReadFrom vars
  store : c.store.ReadFrom vars
  dimension : c.store.dimension = c.embedder.dimension
  pipeline : PipelineFrom processors vars c.pipeline
  embeddingRetry : vars.natOr "EMBEDDING_MAX_RETRIES" word32 3 =
    .ok c.embeddingRetry.maxRetries.toNat
  startupTimeout : ∃ seconds, vars.positiveOr "STARTUP_TIMEOUT_SECS" word64 60 = .ok seconds ∧
    c.startupTimeout = seconds * 1000
  maxBodyBytes : vars.positiveOr "MAX_BODY_BYTES" word64 (10 * 1024 * 1024) = .ok c.maxBodyBytes

theorem readFrom {c : Service} (h : ofVariables processors vars = .ok c) :
    c.ReadFrom processors vars := by
  obtain ⟨listener, hlistener, h⟩ := bind_eq_ok.mp h
  obtain ⟨address, haddress, h⟩ := bind_eq_ok.mp h
  obtain ⟨embedder, hembedder, h⟩ := bind_eq_ok.mp h
  obtain ⟨store, hstore, h⟩ := bind_eq_ok.mp h
  obtain ⟨pipeline, hpipeline, h⟩ := bind_eq_ok.mp h
  obtain ⟨embeddingRetry, hretry, h⟩ := bind_eq_ok.mp h
  obtain ⟨seconds, hseconds, h⟩ := bind_eq_ok.mp h
  obtain ⟨maxBodyBytes, hbody, h⟩ := bind_eq_ok.mp h
  obtain rfl := Except.ok.inj h
  have hs := Store.readFrom hstore
  exact ⟨Listener.readFrom hlistener, ⟨address, haddress⟩, Embedder.readFrom hembedder,
    ⟨hs.collection, hs.notBlank, hs.timeout⟩, rfl, pipelineFrom hpipeline,
    (backoff_eq_ok hretry).1, ⟨seconds, hseconds, rfl⟩, hbody⟩

end Service

/-! ### Values that are no texts -/

/-- The environment without a variable. -/
def Variables.unset (vars : Variables) (key : String) : Variables :=
  ⟨vars.values.filter (·.1 ≠ key)⟩

/-- A variable that is unset has no text, and all others have the text that they had. -/
theorem Variables.text?_unset (vars : Variables) (key other : String) :
    (vars.unset key).text? other = if other = key then none else vars.text? other := by
  obtain ⟨values⟩ := vars
  simp only [text?, unset]
  induction values with
  | nil => simp
  | cons v rest ih =>
    obtain ⟨name, value⟩ := v
    by_cases hname : name = key
    · subst hname
      rw [List.filter_cons_of_neg (by simp), ih]
      split
      · rfl
      · rename_i hne
        rw [List.lookup_cons, beq_false_of_ne hne]
    · rw [List.filter_cons_of_pos (by simpa using hname), List.lookup_cons, List.lookup_cons]
      by_cases ho : other = name
      · subst ho
        simp [hname]
      · rw [beq_false_of_ne ho]
        exact ih

section Texts

variable {vars' : Variables} (h : ∀ key, vars.text? key = vars'.text? key)
include h

theorem Variables.textOr_congr (key default : String) :
    vars.textOr key default = vars'.textOr key default := by
  rw [textOr, textOr, h]

theorem Variables.nonBlank?_congr (key : String) : vars.nonBlank? key = vars'.nonBlank? key := by
  rw [nonBlank?, nonBlank?, h]

theorem Variables.readOr_congr {α : Type} (key : String) (read : String → Except String α)
    (default : α) : vars.readOr key read default = vars'.readOr key read default := by
  rw [readOr, readOr, nonBlank?_congr h]

theorem Variables.natOr_congr (key : String) (bound default : Nat) :
    vars.natOr key bound default = vars'.natOr key bound default :=
  readOr_congr h key _ default

theorem Variables.positiveOr_congr (key : String) (bound default : Nat) :
    vars.positiveOr key bound default = vars'.positiveOr key bound default := by
  rw [positiveOr, positiveOr, natOr_congr h]

/-- Settings depend on nothing but the texts of the variables. -/
theorem Service.ofVariables_congr :
    Service.ofVariables processors vars = Service.ofVariables processors vars' := by
  simp only [Service.ofVariables, Stage.ofVariables, Listener.ofVariables, Embedder.ofVariables,
    Store.ofVariables, pipelineOf, dedupOf, thresholdOf, backoffOf, Variables.textOr_congr h,
    Variables.nonBlank?_congr h, Variables.readOr_congr h, Variables.natOr_congr h,
    Variables.positiveOr_congr h]

end Texts

/-- A variable whose value is no text is as if it were not set. -/
theorem Service.ofVariables_unset {key : String} (h : vars.text? key = none) :
    Service.ofVariables processors vars = Service.ofVariables processors (vars.unset key) := by
  refine Service.ofVariables_congr fun other => ?_
  rw [Variables.text?_unset]
  split
  · rename_i heq
    rw [heq, h]
  · rfl

end LogIntake.Config
