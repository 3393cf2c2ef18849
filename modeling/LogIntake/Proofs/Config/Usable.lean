import LogIntake.Proofs.Config.Loading
import LogIntake.Proofs.Net.Port
import LogIntake.Service.Startup

/-!
# Loaded settings are usable

Settings are examined twice: when they are loaded, and again where they are used, by the check of
the pipeline and by the reader of the listener's address. The second examination finds nothing:
settings that were loaded are **usable** (`Service.Usable`), so a start never fails over them
(`Service.IsSound`).

The other side is that nothing unreadable is passed over. Of the variables that are to be numbers
or truth values, any that is set to a text that is neither blank nor of its kind makes loading
fail. A value that is not even a text is the exception: it counts as not set, so the default takes
its place.
-/

namespace LogIntake.Config

open Number (Single word16 word32 word64)

/-! ### Usable settings -/

/-- Settings that a service can run with. -/
structure Service.Usable (c : Service) : Prop where
  /-- The check of the pipeline passes. -/
  check : c.pipeline.check = .ok ()
  /-- The listener's address can be read, and has the port that is set. -/
  address : ∃ a, c.listener.socketAddress = .ok a ∧ a.port = c.listener.port
  /-- The store takes vectors of the length that the provider gives. -/
  dimension : c.store.dimension = c.embedder.dimension
  dimension_pos : 1 ≤ c.embedder.dimension
  collection : ¬ Text.isBlankText c.store.collection
  maxBatchAge_pos : 0 < c.pipeline.maxBatchAge
  enqueueTimeout_pos : 0 < c.pipeline.enqueueTimeout
  embedderTimeout_pos : 0 < c.embedder.timeout
  startupTimeout_pos : 0 < c.startupTimeout
  windowAge_pos : 0 < c.pipeline.dedup.maxAge
  maxBodyBytes_pos : 0 < c.maxBodyBytes

variable {vars : Variables} {processors : Nat} {c : Service}

/-- What a positive number was read as is positive. -/
theorem Variables.pos_of_positiveOr {key : String} {bound default n : Nat}
    (h : vars.positiveOr key bound default = .ok n) : 0 < n :=
  (positiveOr_eq_ok.mp h).2

/-- The check of the pipeline asks for nothing that loading has not asked for. -/
theorem Service.PipelineFrom.check {s : Pipeline.Settings}
    (h : PipelineFrom processors vars s) : s.check = .ok () := by
  have hworkers := Variables.pos_of_positiveOr h.workers
  have hqueue := Variables.pos_of_positiveOr h.queueCapacity
  have hsize := Variables.pos_of_positiveOr h.maxBatchSize
  have hage := Variables.pos_of_positiveOr h.maxBatchAge
  have hentries := Variables.pos_of_positiveOr h.dedup.maxEntries
  have hstreams := Variables.pos_of_positiveOr h.dedup.maxStreams
  have hmin : s.dedup.minExamples ≠ 0 := by
    intro hzero
    have hpos := Variables.pos_of_positiveOr h.dedup.minExamples
    rw [hzero] at hpos
    exact absurd hpos (by decide)
  have hrange : (!(Single.zero.lt s.dedup.threshold && s.dedup.threshold.le .one)) = false := by
    rw [h.dedup.inRange.1, h.dedup.inRange.2]
    rfl
  rw [Pipeline.Settings.check, if_neg hworkers.ne', if_neg hqueue.ne', if_neg hsize.ne',
    if_neg hage.ne', hrange, if_neg Bool.false_ne_true, if_neg hmin, if_neg hentries.ne',
    if_neg hstreams.ne']

theorem Listener.toList_address (l : Listener) :
    l.address.toList = l.host.toList ++ ':' :: Nat.toDigits 10 l.port.toNat := by
  have hport : (toString l.port).toList = Nat.toDigits 10 l.port.toNat := Nat.toList_repr
  rw [address, String.toList_append, String.toList_append, hport, List.append_assoc]
  rfl

/-- The address of a listener has the listener's port. -/
theorem Listener.port_of_socketAddress {l : Listener} {a : Net.SocketAddress}
    (h : l.socketAddress = .ok a) : a.port = l.port := by
  unfold socketAddress at h
  split at h
  · rename_i b hb
    obtain rfl := Except.ok.inj h
    exact Net.SocketAddress.port_of_ofText? (l.toList_address ▸ hb)
  · cases h

/-- Settings that were loaded are usable. -/
theorem Service.ReadFrom.usable (h : c.ReadFrom processors vars) : c.Usable := by
  obtain ⟨a, ha⟩ := h.address
  obtain ⟨startup, hstartup, hms⟩ := h.startupTimeout
  obtain ⟨age, hage, hms'⟩ := h.pipeline.dedup.maxAge
  have hpos := Variables.pos_of_positiveOr hstartup
  have hpos' := Variables.pos_of_positiveOr hage
  exact {
    check := h.pipeline.check
    address := ⟨a, ha, Listener.port_of_socketAddress ha⟩
    dimension := h.dimension
    dimension_pos := Variables.pos_of_positiveOr h.embedder.dimension
    collection := h.store.notBlank
    maxBatchAge_pos := Variables.pos_of_positiveOr h.pipeline.maxBatchAge
    enqueueTimeout_pos := Variables.pos_of_positiveOr h.pipeline.enqueueTimeout
    embedderTimeout_pos := Variables.pos_of_positiveOr h.embedder.timeout
    startupTimeout_pos := by omega
    windowAge_pos := by omega
    maxBodyBytes_pos := Variables.pos_of_positiveOr h.maxBodyBytes }

/-- Whether a failure is over settings that were examined when they were loaded. -/
def IsBelated : LogIntake.Service.Failure → Prop
  | .pipeline _ | .address _ => True
  | _ => False

/-- What a start may come to: it does not fail over settings that were examined before, and the
listener that it opens has the port that is set. -/
def Service.IsSound (c : Service) (r : Except LogIntake.Service.Failure LogIntake.Service.Running) :
    Prop :=
  (∀ f, r = .error f → ¬ IsBelated f) ∧
    ∀ running, r = .ok running → running.address.port = c.listener.port

theorem Service.isSound_error {f : LogIntake.Service.Failure} (hf : ¬ IsBelated f) :
    c.IsSound (.error f) :=
  ⟨fun _ heq => Except.error.inj heq ▸ hf, fun _ heq => nomatch heq⟩

theorem Service.Usable.launch (h : c.Usable) (s : LogIntake.Service.Surroundings)
    (handle : Store.Handle) {r : Except LogIntake.Service.Failure LogIntake.Service.Running}
    (hr : LogIntake.Service.launch c s handle = some r) : c.IsSound r := by
  obtain ⟨a, ha, hport⟩ := h.address
  rw [LogIntake.Service.launch, Pipeline.World.launch, h.check] at hr
  dsimp only at hr
  by_cases hfits : c.pipeline.fits
  · rw [if_pos hfits] at hr
    obtain rfl := Option.some.inj hr
    rw [LogIntake.Service.listen, ha]
    cases s.listener with
    | error detail => exact isSound_error not_false
    | ok u => exact ⟨nofun, fun running heq => Except.ok.inj heq ▸ hport⟩
  · rw [if_neg hfits] at hr
    cases hr

theorem Service.Usable.introduce (h : c.Usable) (s : LogIntake.Service.Surroundings)
    (handle : Store.Handle) (asked : List LogIntake.Service.Outgoing)
    {r : Except LogIntake.Service.Failure LogIntake.Service.Running}
    (hr : (LogIntake.Service.introduce c s handle asked).result = some r) : c.IsSound r := by
  rw [LogIntake.Service.introduce] at hr
  split at hr
  · obtain rfl := Option.some.inj hr
    exact isSound_error not_false
  · dsimp only at hr
    split at hr
    · exact h.launch s handle hr
    · exact h.launch s handle hr
    all_goals cases hr

theorem Service.Usable.connect (h : c.Usable) (s : LogIntake.Service.Surroundings) (fuel : Nat)
    {r : Except LogIntake.Service.Failure LogIntake.Service.Running}
    (hr : (LogIntake.Service.connect c s fuel).result = some r) : c.IsSound r := by
  rw [LogIntake.Service.connect] at hr
  split at hr
  · obtain rfl := Option.some.inj hr
    exact isSound_error not_false
  · dsimp only at hr
    split at hr
    · rename_i handle _ _ _ _
      rw [LogIntake.Service.prepare] at hr
      split at hr
      · obtain rfl := Option.some.inj hr
        exact isSound_error not_false
      · exact h.introduce s handle _ hr
    · obtain rfl := Option.some.inj hr
      exact isSound_error not_false
    · cases hr
    · cases hr

/-- With usable settings, whatever a start comes to is sound. -/
theorem Service.Usable.start (h : c.Usable) (s : LogIntake.Service.Surroundings) (fuel : Nat)
    {r : Except LogIntake.Service.Failure LogIntake.Service.Running}
    (hr : (LogIntake.Service.start c s fuel).result = some r) : c.IsSound r := by
  rw [LogIntake.Service.start] at hr
  split at hr
  · obtain rfl := Option.some.inj hr
    exact isSound_error not_false
  · exact h.connect s fuel hr

/-! ### Unreadable values -/

/-- The variables that are to be numbers or truth values. -/
def typedVariables : List (String × Kind) :=
  [("PORT", .number word16), ("EMBEDDING_DIMENSION", .number word64),
    ("EMBEDDING_TIMEOUT_MS", .number word64), ("EMBEDDING_SEND_DIMENSIONS", .truth),
    ("QDRANT_TIMEOUT_SECS", .number word64), ("SIMILARITY_THRESHOLD", .single),
    ("MIN_EXAMPLES_BEFORE_EXCLUSION", .number word32), ("DEDUP_WINDOW_SIZE", .number word64),
    ("DEDUP_WINDOW_TTL_SECS", .number word64), ("DEDUP_MAX_STREAMS", .number word64),
    ("WORKER_COUNT", .number word64), ("QUEUE_CAPACITY", .number word64),
    ("BATCH_SIZE", .number word64), ("BATCH_TIMEOUT_MS", .number word64),
    ("ENQUEUE_TIMEOUT_MS", .number word64), ("FLUSH_MAX_RETRIES", .number word32),
    ("SHUTDOWN_TIMEOUT_SECS", .number word64), ("EMBEDDING_MAX_RETRIES", .number word32),
    ("STARTUP_TIMEOUT_SECS", .number word64), ("MAX_BODY_BYTES", .number word64)]

/-- All other variables are texts. -/
example : Service.variableNames.filter (· ∉ typedVariables.map Prod.fst) =
    ["APP_ENV", "HOST", "EMBEDDING_URL", "EMBEDDING_API_KEY", "EMBEDDING_MODEL",
      "QDRANT_COLLECTION", "QDRANT_URL", "QDRANT_API_KEY"] := by
  decide

/-- Where settings were loaded, every variable fits its kind. -/
theorem Service.ReadFrom.fits (h : c.ReadFrom processors vars) :
    ∀ v ∈ typedVariables, vars.Fits v.1 v.2 := by
  obtain ⟨startup, hstartup, -⟩ := h.startupTimeout
  obtain ⟨shutdown, hshutdown, -⟩ := h.pipeline.shutdownTimeout
  obtain ⟨age, hage, -⟩ := h.pipeline.dedup.maxAge
  simp only [typedVariables, List.forall_mem_cons, List.not_mem_nil, false_implies,
    implies_true, and_true]
  exact ⟨Variables.fits_of_natOr h.listener.port,
    Variables.fits_of_positiveOr h.embedder.dimension,
    Variables.fits_of_positiveOr h.embedder.timeout,
    Variables.fits_of_readOr Kind.admits_of_readBool h.embedder.sendDimensions,
    Variables.fits_of_natOr h.store.timeout,
    Variables.fits_of_readOr Kind.admits_of_readSingle h.pipeline.dedup.threshold,
    Variables.fits_of_positiveOr h.pipeline.dedup.minExamples,
    Variables.fits_of_positiveOr h.pipeline.dedup.maxEntries,
    Variables.fits_of_positiveOr hage,
    Variables.fits_of_positiveOr h.pipeline.dedup.maxStreams,
    Variables.fits_of_positiveOr h.pipeline.workers,
    Variables.fits_of_positiveOr h.pipeline.queueCapacity,
    Variables.fits_of_positiveOr h.pipeline.maxBatchSize,
    Variables.fits_of_positiveOr h.pipeline.maxBatchAge,
    Variables.fits_of_positiveOr h.pipeline.enqueueTimeout,
    Variables.fits_of_natOr h.pipeline.flushRetry,
    Variables.fits_of_natOr hshutdown,
    Variables.fits_of_natOr h.embeddingRetry,
    Variables.fits_of_positiveOr hstartup,
    Variables.fits_of_positiveOr h.maxBodyBytes⟩

/-- Whether bytes are neither blank nor stand for a value of a kind. -/
def Kind.Refuses (kind : Kind) (bytes : List UInt8) : Prop :=
  ∀ raw, Text.Utf8.decode? bytes = some raw →
    ¬ Text.isBlankText raw ∧ ¬ kind.Admits (Text.trim raw)

/-- Settings that are loaded are usable, with the port that is set, and no start fails over them.
A variable with a text that its kind refuses is an error. But a variable with a value that is no
text is taken as not set. -/
theorem Service.usable_or_error (processors : Nat) (vars : Variables) :
    (∀ c, ofVariables processors vars = .ok c →
      c.Usable ∧ vars.natOr "PORT" word16 8080 = .ok c.listener.port.toNat ∧
        ∀ s fuel r, (LogIntake.Service.start c s fuel).result = some r → c.IsSound r) ∧
    (∀ v ∈ typedVariables, ∀ bytes, vars.values.lookup v.1 = some bytes → v.2.Refuses bytes →
      (Text.Utf8.decode? bytes).isSome → ∃ e, ofVariables processors vars = .error e) ∧
    ∀ key bytes, vars.values.lookup key = some bytes → Text.Utf8.decode? bytes = none →
      ofVariables processors vars = ofVariables processors (vars.unset key) := by
  refine ⟨fun c hc => ?_, fun v hv bytes hset hrefuses htext => ?_, fun key bytes hset hbad => ?_⟩
  · have hread := readFrom hc
    exact ⟨hread.usable, hread.listener.port, fun s fuel r => hread.usable.start s fuel⟩
  · obtain ⟨raw, hraw⟩ := Option.isSome_iff_exists.mp htext
    obtain ⟨hblank, hkind⟩ := hrefuses raw hraw
    cases hc : ofVariables processors vars with
    | error e => exact ⟨e, rfl⟩
    | ok c =>
      have hget : vars.text? v.1 = some raw := by
        rw [Variables.text?, hset, Option.bind_some, hraw]
      exact absurd ((readFrom hc).fits v hv raw hget hblank) hkind
  · refine ofVariables_unset ?_
    rw [Variables.text?, hset, Option.bind_some, hbad]

/-- An environment with a port that is no text. -/
def wildPort : Variables := ⟨[("PORT", [0xFF])]⟩

/-- Not every unreadable value is an error: a port that is no text gives way to the default. -/
theorem Service.not_forall_refused_error :
    ¬ ∀ processors (vars : Variables), ∀ v ∈ typedVariables, ∀ bytes,
      vars.values.lookup v.1 = some bytes → v.2.Refuses bytes →
        ∃ e, ofVariables processors vars = .error e := by
  intro h
  have hrefuses : (Kind.number word16).Refuses [0xFF] := by
    intro raw hraw
    have hbad : Text.Utf8.decode? [0xFF] = none := by decide
    exact absurd (hbad.symm.trans hraw) (by simp)
  obtain ⟨e, he⟩ := h 1 wildPort ("PORT", .number word16) List.mem_cons_self [0xFF] rfl hrefuses
  have hloads : (ofVariables 1 wildPort).isOk := by decide +kernel
  rw [he] at hloads
  exact absurd hloads Bool.false_ne_true

end LogIntake.Config
