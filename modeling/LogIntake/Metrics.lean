import LogIntake.Number.Double

/-!
# Metrics

Every event of the service is counted twice: in the **totals**, which answers report, and in the
**exported** series, which a monitoring system scrapes. A series exists from the first event
that touches it, even if that event adds zero. Integer counts have 64 bits.
-/

namespace LogIntake

open Number (Double)

/-- How a request was answered. -/
inductive RequestOutcome where
  | accepted
  | partly
  | backpressure
  | closing
  | malformed
  deriving DecidableEq, Repr

/-- The name of an outcome in metric labels. -/
def RequestOutcome.label : RequestOutcome → String
  | .accepted => "accepted"
  | .partly => "partial"
  | .backpressure => "backpressure"
  | .closing => "shutting_down"
  | .malformed => "malformed"

/-- What is counted. -/
inductive Event where
  | request (outcome : RequestOutcome)
  | recordsAccepted (n : UInt64)
  /-- A line was rejected; faults of one label are counted together. -/
  | recordRejected (label : String)
  | embeddingFailure
  | duplicateSuppressed
  /-- A batch of `n` points was written. -/
  | batchFlushed (n : UInt64)
  /-- A batch of `n` points was lost. -/
  | batchDropped (n : UInt64)
  /-- Entries were lost outside of a batch. -/
  | recordsDropped (n : UInt64)
  | storageRetry
  deriving DecidableEq, Repr

/-- The number of events of each kind. -/
structure Totals where
  requests : UInt64 := 0
  recordsAccepted : UInt64 := 0
  recordsRejected : UInt64 := 0
  embeddingFailures : UInt64 := 0
  duplicatesSuppressed : UInt64 := 0
  batchesFlushed : UInt64 := 0
  recordsStored : UInt64 := 0
  batchesDropped : UInt64 := 0
  recordsDropped : UInt64 := 0
  storageRetries : UInt64 := 0
  deriving DecidableEq, Repr

/-- The totals after one more event. -/
def Totals.add (t : Totals) : Event → Totals
  | .request _ => { t with requests := t.requests + 1 }
  | .recordsAccepted n => { t with recordsAccepted := t.recordsAccepted + n }
  | .recordRejected _ => { t with recordsRejected := t.recordsRejected + 1 }
  | .embeddingFailure => { t with embeddingFailures := t.embeddingFailures + 1 }
  | .duplicateSuppressed => { t with duplicatesSuppressed := t.duplicatesSuppressed + 1 }
  | .batchFlushed n =>
    { t with batchesFlushed := t.batchesFlushed + 1, recordsStored := t.recordsStored + n }
  | .batchDropped n =>
    { t with batchesDropped := t.batchesDropped + 1, recordsDropped := t.recordsDropped + n }
  | .recordsDropped n => { t with recordsDropped := t.recordsDropped + n }
  | .storageRetry => { t with storageRetries := t.storageRetries + 1 }

/-! ### Exported series -/

/-- A counter series: a name and at most one label with its value. -/
structure Series where
  name : String
  label : Option (String × String)
  deriving DecidableEq, Repr

/-- The values that are exported: counters, and two histograms, one of the sizes of flushed
batches and one of the times that it took to flush them. Of the latter only the number of samples
is kept. -/
structure Exported where
  counters : List (Series × UInt64) := []
  /-- The samples of the sizes of batches, last one first. -/
  batchSizes : List UInt64 := []
  flushDurations : UInt64 := 0
  deriving DecidableEq, Repr

namespace Exported

/-- Adds to a series, which appears if it has not been there. -/
def bump (counters : List (Series × UInt64)) (s : Series) (n : UInt64) :
    List (Series × UInt64) :=
  match counters with
  | [] => [(s, n)]
  | (t, m) :: rest => if t = s then (t, m + n) :: rest else (t, m) :: bump rest s n

/-- Adds to a series without a label. -/
def count (x : Exported) (name : String) (n : UInt64) : Exported :=
  { x with counters := bump x.counters ⟨name, none⟩ n }

/-- Adds one to a series with a label. -/
def countLabelled (x : Exported) (name key value : String) : Exported :=
  { x with counters := bump x.counters ⟨name, some (key, value)⟩ 1 }

/-- Adds one sample to the histograms of flushed batches. -/
def sample (x : Exported) (n : UInt64) : Exported :=
  { x with batchSizes := n :: x.batchSizes, flushDurations := x.flushDurations + 1 }

/-- Counts lost entries, of which there is at least one. -/
def dropRecords (x : Exported) (n : UInt64) : Exported :=
  if n = 0 then x else x.count "log_ingest_records_dropped_total" n

/-- The exported series after one more event. -/
def add (x : Exported) : Event → Exported
  | .request outcome => x.countLabelled "log_ingest_requests_total" "outcome" outcome.label
  | .recordsAccepted n =>
    if n = 0 then x else x.count "log_ingest_records_accepted_total" n
  | .recordRejected label =>
    x.countLabelled "log_ingest_records_rejected_total" "reason" label
  | .embeddingFailure => x.count "log_ingest_embedding_failures_total" 1
  | .duplicateSuppressed => x.count "log_ingest_duplicates_suppressed_total" 1
  | .batchFlushed n =>
    ((x.count "log_ingest_batches_flushed_total" 1).count
      "log_ingest_records_stored_total" n).sample n
  | .batchDropped n => (x.count "log_ingest_batches_dropped_total" 1).dropRecords n
  | .recordsDropped n => x.dropRecords n
  | .storageRetry => x.count "log_ingest_storage_retries_total" 1

/-- The text line of a counter. -/
def counterLine (p : Series × UInt64) : String :=
  match p.1.label with
  | none => s!"{p.1.name} {p.2}"
  | some (key, value) => s!"{p.1.name}\x7b{key}=\"{value}\"\x7d {p.2}"

/-- The number of samples in a full block of a histogram. -/
def blockSize : Nat := 64

/-- Some full blocks of samples, which are given last one first: the last block comes first, and
within a block the oldest sample does. -/
def fullBlocks (samples : List UInt64) : (blocks : Nat) → List UInt64
  | 0 => []
  | blocks + 1 =>
    (samples.take blockSize).reverse ++ fullBlocks (samples.drop blockSize) blocks

/-- The samples of a histogram in the order in which they are summed up: first those of the block
that is not full yet, then the full blocks. -/
def summationOrder (samples : List UInt64) : List UInt64 :=
  let started := samples.length % blockSize
  (samples.take started).reverse ++
    fullBlocks (samples.drop started) (samples.length / blockSize)

/-- The sum of some samples in double precision. -/
def sum (samples : List UInt64) : Double :=
  (summationOrder samples).foldl (fun sum n =>
    Double.ofFloat (sum.toFloat + (Double.ofNat n.toNat).toFloat)) ⟨0⟩

/-- The text lines of the histograms. -/
def histogramLines (x : Exported) : List String :=
  if x.batchSizes.isEmpty then [] else
    [s!"log_ingest_batch_size_count {x.batchSizes.length}",
      "log_ingest_batch_size_sum " ++
        Number.Format.binary64.print (sum x.batchSizes).bits.toNat,
      s!"log_ingest_flush_duration_seconds_count {x.flushDurations}"]

/-- The text lines of all series, in increasing order, without comments and quantiles. -/
def lines (x : Exported) : List String :=
  (x.counters.map counterLine ++ histogramLines x).mergeSort fun a b => !(b < a)

/-- The text that a monitoring system reads: the counters of each name under a line with their
type, and an empty line behind them; then the histograms. -/
def text (x : Exported) : String :=
  let names := (x.counters.map (·.1.name)).eraseDups
  let counters := names.flatMap fun name =>
    s!"# TYPE {name} counter" :: (x.counters.filter (·.1.name = name)).map counterLine ++ [""]
  String.join ((counters ++ histogramLines x).map (· ++ "\n"))

end Exported

/-- All counts of the service. -/
structure Metrics where
  totals : Totals := {}
  exported : Exported := {}
  deriving DecidableEq, Repr

/-- The counts after one more event. -/
def Metrics.add (m : Metrics) (e : Event) : Metrics :=
  ⟨m.totals.add e, m.exported.add e⟩

end LogIntake
