import Mathlib.Data.List.Perm.Basic
import LogIntake.Proofs.Pipeline.Verdicts

/-!
# How many workers there are does not matter

Two pipelines take the same entries, but share them among different numbers of workers, write them
in batches of different sizes and after different times, and wait differently long for their
backends. As long as nothing else disturbs them (`Run.IsUndisturbed`), they store the same entries
of each source in the same order, and count as many duplicates and failures (`Run.transparent`).

Of the order among entries only the order within each source is used. What is stored may come in
another order from one source to the next, so the totals are compared by counting each entry where
its source is (`length_eq_of_sources`).
-/

namespace LogIntake.Pipeline

/-! ### Sources and totals -/

/-- The entries of a source among some items. -/
def entriesOf (source : String) (xs : List Item) : List Entry :=
  (xs.filter (Item.isFrom source)).map Item.entry

theorem count_entriesOf (e : Entry) (xs : List Item) :
    (entriesOf e.source xs).count e = (xs.map Item.entry).count e := by
  have hfilter : entriesOf e.source xs = (xs.map Item.entry).filter (·.source == e.source) := by
    rw [entriesOf, List.filter_map]
    rfl
  rw [hfilter, List.count_filter (by simp)]

/-- Where there are the same entries of each source, there are as many altogether. -/
theorem length_eq_of_sources {xs ys : List Item}
    (h : ∀ source, entriesOf source xs = entriesOf source ys) : xs.length = ys.length := by
  have hperm : (xs.map Item.entry).Perm (ys.map Item.entry) := by
    refine List.perm_iff_count.mpr fun e => ?_
    rw [← count_entriesOf, h, count_entriesOf]
  simpa using hperm.length_eq

/-! ### Two runs -/

/-- A run to its end in which nothing but the entries decides about their fates. -/
structure Run.IsUndisturbed (outcome : String → Except Fault Embedding) {s : Settings} {c : Client}
    {b : Backend} {w : World} (r : Run (World.start s c b) w) : Prop where
  /-- What the provider says of a text depends on the text alone and comes in time, and the store
  takes every batch, however late. -/
  reliable : b.IsReliable c.timeout outcome
  /-- There is room for the windows of all sources. -/
  few : (r.arrivals.map (·.entry.source)).dedup.length ≤ s.dedup.maxStreams
  /-- No embedding in a window gets too old. -/
  young : r.Always fun v => ∀ k ∈ v.workers, k.dedup.IsYoung v.fineNow
  /-- All workers have stopped, -/
  done : w.isDone = true
  /-- and have done so before the deadline. -/
  inTime : w.isOver = false

/-- What two runs have in common. -/
structure Transparent {v v' w w' : World} (r : Run v w) (r' : Run v' w') : Prop where
  /-- The same entries of each source are stored, in the same order. -/
  stored : ∀ source,
    entriesOf source (r.ledger.met .stored) = entriesOf source (r'.ledger.met .stored)
  recordsStored : w.metrics.totals.recordsStored = w'.metrics.totals.recordsStored
  duplicatesSuppressed :
    w.metrics.totals.duplicatesSuppressed = w'.metrics.totals.duplicatesSuppressed
  embeddingFailures : w.metrics.totals.embeddingFailures = w'.metrics.totals.embeddingFailures

namespace Run

variable {s s' : Settings} {c c' : Client} {b b' : Backend} {w w' : World}
  {outcome : String → Except Fault Embedding}

/-- The entries of a source that meet a fate, as the judge tells them. -/
theorem IsUndisturbed.entriesOf_met {r : Run (World.start s c b) w} (h : r.IsUndisturbed outcome)
    (source : String) {f : Fate} (hf : f = .stored ∨ f = .duplicate ∨ f = .failed) :
    entriesOf source (r.ledger.met f) = ((((World.start s c b).judge outcome).fates
      (r.arrivals.filter (Item.isFrom source))).met f).map Item.entry := by
  rw [entriesOf, r.fates h.reliable h.few (fun x hx => ?_) h.young h.inTime h.done source hf]
  exact List.mem_dedup.mpr (List.mem_map_of_mem hx)

/-- **Sharing the entries among workers is transparent.** Whatever the numbers of workers, the
sizes and ages of batches, and the delays of the backends are, two undisturbed runs with the same
entries of each source store the same entries of each source in the same order, and agree in their
totals. -/
theorem transparent {r : Run (World.start s c b) w} {r' : Run (World.start s' c' b') w'}
    (h : r.IsUndisturbed outcome) (h' : r'.IsUndisturbed outcome) (hdedup : s.dedup = s'.dedup)
    (hdimension : c.dimension = c'.dimension)
    (hsame : ∀ source, entriesOf source r.arrivals = entriesOf source r'.arrivals) :
    Transparent r r' := by
  have hjudge : (World.start s c b).judge outcome = (World.start s' c' b').judge outcome := by
    simp only [World.judge, World.start, hdedup, hdimension]
  have hmet : ∀ {f : Fate}, f = .stored ∨ f = .duplicate ∨ f = .failed → ∀ source,
      entriesOf source (r.ledger.met f) = entriesOf source (r'.ledger.met f) := by
    intro f hf source
    rw [h.entriesOf_met source hf, h'.entriesOf_met source hf, hjudge]
    exact Judge.map_entry_met_fates _ (hsame source) f
  have htotal : ∀ {f : Fate}, f = .stored ∨ f = .duplicate ∨ f = .failed →
      f.total w.metrics.totals = f.total w'.metrics.totals := by
    intro f hf
    have hcounted : f ≠ .lost := by rcases hf with rfl | rfl | rfl <;> decide
    rw [r.balanced.totals f hcounted, r'.balanced.totals f hcounted,
      length_eq_of_sources (hmet hf)]
  exact ⟨hmet (.inl rfl), htotal (.inl rfl), htotal (.inr (.inl rfl)), htotal (.inr (.inr rfl))⟩

end Run

/-! ### One worker and two -/

/-- The run goes on with some steps. -/
def Run.andThen {w v u : World} (past : Run w v) (steps : List Action)
    (h : v.follow steps = some u) : Run w u :=
  match steps, h with
  | [], h => Option.some.inj h ▸ past
  | a :: rest, h =>
    match hstep : v.apply a with
    | some t => (past.step a hstep).andThen rest (by
        rw [World.follow] at h
        split at h
        · simpa [hstep] using h
        · cases h)
    | none => absurd h (by simp [World.follow, hstep])

/-- Whether something holds whenever a step is taken can be seen. -/
instance Run.decidableAlways (P : World → Prop) [DecidablePred P] {w v : World} :
    (r : Run w v) → Decidable (r.Always P)
  | .refl => inferInstanceAs (Decidable True)
  | .step r _ _ =>
    have := Run.decidableAlways P r
    inferInstanceAs (Decidable (_ ∧ _))

namespace OneOrTwoWorkers

def settings (workers batchSize : Nat) : Settings where
  workers := workers
  queueCapacity := 8
  enqueueTimeout := 100
  maxBatchSize := batchSize
  maxBatchAge := 50
  flushRetry := .standard
  shutdownTimeout := 1000
  dedup := ⟨.one, 1, 10, 1000, 10⟩

def client : Client := ⟨1, 1000, .standard⟩

/-- One text is refused. -/
def outcome (text : String) : Except Fault Embedding :=
  if text = "bad" then .error (.embeddingRejected "bad") else .ok [.one]

def backend (delay : Nat) : Backend where
  embed _ text := .after 0 (.of (outcome text))
  insert _ := .after delay (.gives ())
  check _ := .after 0 (.gives ())

theorem isReliable_backend (delay : Nat) : (backend delay).IsReliable client.timeout outcome :=
  ⟨fun _ _ => rfl, fun _ _ => Nat.zero_le _, fun _ => rfl⟩

def entries : List Entry :=
  [("a", "one"), ("b", "two"), ("a", "bad")].map fun (source, message) =>
    ⟨default, message, source, []⟩

/-- The pipeline is told to stop as soon as it has all entries. -/
def offers : List Action := entries.map .offer ++ [.stop]

/-- One worker writes both points in one batch, which takes its time. -/
def together? : Option World :=
  (World.start (settings 1 2) client (backend 20)).follow
    (offers ++ List.replicate 7 (.work 0) ++ [.wait 20] ++ List.replicate 5 (.work 0))

/-- Each of two workers has a source of its own, and the second source is done first. -/
def apart? : Option World :=
  (World.start (settings 2 1) client (backend 0)).follow
    (offers ++ List.replicate 6 (.work 0) ++ List.replicate 9 (.work 1))

theorem isSome_together? : together?.isSome = true := by decide +kernel

theorem isSome_apart? : apart?.isSome = true := by decide +kernel

def runTogether :
    Run (World.start (settings 1 2) client (backend 20)) (together?.get isSome_together?) :=
  Run.refl.andThen _ (Option.some_get isSome_together?).symm

def runApart : Run (World.start (settings 2 1) client (backend 0)) (apart?.get isSome_apart?) :=
  Run.refl.andThen _ (Option.some_get isSome_apart?).symm

theorem isUndisturbed_together : runTogether.IsUndisturbed outcome :=
  ⟨isReliable_backend 20, by decide +kernel, by decide +kernel, by decide +kernel,
    by decide +kernel⟩

theorem isUndisturbed_apart : runApart.IsUndisturbed outcome :=
  ⟨isReliable_backend 0, by decide +kernel, by decide +kernel, by decide +kernel,
    by decide +kernel⟩

end OneOrTwoWorkers

/-- Entries of different sources may change places, but those of one source do not. -/
theorem Run.transparent_oneOrTwoWorkers :
    OneOrTwoWorkers.runTogether.IsUndisturbed OneOrTwoWorkers.outcome ∧
    OneOrTwoWorkers.runApart.IsUndisturbed OneOrTwoWorkers.outcome ∧
    OneOrTwoWorkers.runTogether.arrivals.map Item.entry = OneOrTwoWorkers.entries ∧
    (OneOrTwoWorkers.runTogether.ledger.met .stored).map (·.entry.message) = ["one", "two"] ∧
    (OneOrTwoWorkers.runApart.ledger.met .stored).map (·.entry.message) = ["two", "one"] ∧
    Transparent OneOrTwoWorkers.runTogether OneOrTwoWorkers.runApart := by
  have hsame : OneOrTwoWorkers.runTogether.arrivals = OneOrTwoWorkers.runApart.arrivals := by
    decide +kernel
  exact ⟨OneOrTwoWorkers.isUndisturbed_together, OneOrTwoWorkers.isUndisturbed_apart,
    by decide +kernel, by decide +kernel, by decide +kernel,
    transparent OneOrTwoWorkers.isUndisturbed_together OneOrTwoWorkers.isUndisturbed_apart rfl rfl
      fun source => by rw [hsame]⟩

end LogIntake.Pipeline
