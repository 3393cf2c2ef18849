import LogIntake.Metrics
import LogIntake.Proofs.Number.Whole
import Mathlib.Data.List.Nodup

/-!
# Totals and exported series

Every event is counted in the totals and in the exported series. What both show is said once for all
counters: `Counter.share` is what an event contributes to a counter, `Totals.read` and
`Exported.read` are what is read of it, the latter from all series of the counter, whatever their
labels are. An event adds its share to both, as long as 64 bits are enough
(`Totals.read_add`, `Exported.read_add`).

So totals and series agree after all events (`Metrics.totals_and_series_agree`). The sum of a
histogram is kept in double precision. It is exact up to `2 ^ 53`, in whatever order the samples are
summed up, and one record more is enough for it not to be (`Metrics.not_forall_sum_exact`).
-/

namespace LogIntake

/-! ### Counters -/

/-- What is counted. -/
inductive Counter where
  | requests
  | recordsAccepted
  | recordsRejected
  | embeddingFailures
  | duplicatesSuppressed
  | batchesFlushed
  | recordsStored
  | batchesDropped
  | recordsDropped
  | storageRetries
  deriving DecidableEq, Repr

/-- The total of a counter. -/
def Totals.read (t : Totals) : Counter → UInt64
  | .requests => t.requests
  | .recordsAccepted => t.recordsAccepted
  | .recordsRejected => t.recordsRejected
  | .embeddingFailures => t.embeddingFailures
  | .duplicatesSuppressed => t.duplicatesSuppressed
  | .batchesFlushed => t.batchesFlushed
  | .recordsStored => t.recordsStored
  | .batchesDropped => t.batchesDropped
  | .recordsDropped => t.recordsDropped
  | .storageRetries => t.storageRetries

namespace Counter

/-- What an event contributes to a counter. -/
def share (c : Counter) : Event → Nat
  | .request _ => if c = requests then 1 else 0
  | .recordsAccepted n => if c = recordsAccepted then n.toNat else 0
  | .recordRejected _ => if c = recordsRejected then 1 else 0
  | .embeddingFailure => if c = embeddingFailures then 1 else 0
  | .duplicateSuppressed => if c = duplicatesSuppressed then 1 else 0
  | .batchFlushed n => if c = batchesFlushed then 1 else if c = recordsStored then n.toNat else 0
  | .batchDropped n => if c = batchesDropped then 1 else if c = recordsDropped then n.toNat else 0
  | .recordsDropped n => if c = recordsDropped then n.toNat else 0
  | .storageRetry => if c = storageRetries then 1 else 0

/-- The name of the series of a counter. -/
def name : Counter → String
  | .requests => "log_ingest_requests_total"
  | .recordsAccepted => "log_ingest_records_accepted_total"
  | .recordsRejected => "log_ingest_records_rejected_total"
  | .embeddingFailures => "log_ingest_embedding_failures_total"
  | .duplicatesSuppressed => "log_ingest_duplicates_suppressed_total"
  | .batchesFlushed => "log_ingest_batches_flushed_total"
  | .recordsStored => "log_ingest_records_stored_total"
  | .batchesDropped => "log_ingest_batches_dropped_total"
  | .recordsDropped => "log_ingest_records_dropped_total"
  | .storageRetries => "log_ingest_storage_retries_total"

/-- The label by which the series of a counter are told apart, if there are several. -/
def key? : Counter → Option String
  | .requests => some "outcome"
  | .recordsRejected => some "reason"
  | _ => none

/-- A series of a counter. -/
def series (c : Counter) (label : String) : Series :=
  ⟨c.name, c.key?.map fun key => (key, label)⟩

/-- Whether a series is one of a counter. -/
def counts (c : Counter) (s : Series) : Bool :=
  s.name = c.name ∧ s.label.map Prod.fst = c.key?

theorem name_inj {c c' : Counter} : c.name = c'.name ↔ c = c' := by
  constructor
  · cases c <;> cases c' <;> decide
  · exact congrArg name

/-- A series is of one counter only. -/
theorem counts_series (c c' : Counter) (label : String) :
    c.counts (c'.series label) = decide (c' = c) := by
  have hkey : (c'.key?.map fun key => (key, label)).map Prod.fst = c'.key? := by
    rw [Option.map_map]
    exact Option.map_id'
  refine decide_eq_decide.mpr ?_
  rw [series, hkey, name_inj]
  exact ⟨And.left, fun heq => ⟨heq, congrArg key? heq⟩⟩

end Counter

/-- The total of a counter after one more event. -/
theorem Totals.read_add (t : Totals) (e : Event) (c : Counter) :
    (t.add e).read c = t.read c + UInt64.ofNat (c.share e) := by
  cases e <;> cases c <;> simp [Totals.add, Totals.read, Counter.share]

/-! ### Series -/

namespace Exported

variable {counters : List (Series × UInt64)} {s t : Series} {n : UInt64} {c : Counter}

/-- What some lines show of a counter, summed up over all of its series. -/
def readLines (counters : List (Series × UInt64)) (c : Counter) : Nat :=
  ((counters.filter fun p => c.counts p.1).map fun p => p.2.toNat).sum

/-- What is exported of a counter, summed up over all of its series; nothing counts as zero. -/
def read (x : Exported) (c : Counter) : Nat :=
  readLines x.counters c

theorem readLines_cons (p : Series × UInt64) (counters : List (Series × UInt64)) (c : Counter) :
    readLines (p :: counters) c =
      (if c.counts p.1 then p.2.toNat else 0) + readLines counters c := by
  rw [readLines, List.filter_cons]
  split
  · rw [List.map_cons, List.sum_cons, readLines]
  · rw [Nat.zero_add, readLines]

/-- What is added to a series is added to its counter, as long as 64 bits are enough. -/
theorem readLines_bump (counters : List (Series × UInt64)) (s : Series) (n : UInt64) (c : Counter)
    (hfits : c.counts s = true → readLines counters c + n.toNat < 2 ^ 64) :
    readLines (bump counters s n) c =
      readLines counters c + if c.counts s then n.toNat else 0 := by
  induction counters with
  | nil => rw [bump, readLines_cons, Nat.add_comm]
  | cons p rest ih =>
    obtain ⟨t, m⟩ := p
    rw [readLines_cons] at hfits ⊢
    rw [bump]
    by_cases hts : t = s
    · subst hts
      rw [if_pos rfl, readLines_cons]
      by_cases hc : c.counts t = true
      · have hfits := hfits hc
        simp only [if_pos hc] at hfits
        have hsum : (m + n).toNat = m.toNat + n.toNat := by
          rw [UInt64.toNat_add, Nat.mod_eq_of_lt (by omega)]
        simp only [if_pos hc, hsum]
        omega
      · simp only [if_neg hc, Nat.add_zero]
    · rw [if_neg hts, readLines_cons, ih fun hc => ?_, Nat.add_assoc]
      have hfits := hfits hc
      omega

/-- A series that was there stays at its place, and a new one comes last. -/
theorem keys_bump (counters : List (Series × UInt64)) (s : Series) (n : UInt64) :
    (bump counters s n).map Prod.fst =
      if s ∈ counters.map Prod.fst then counters.map Prod.fst
      else counters.map Prod.fst ++ [s] := by
  induction counters with
  | nil => rfl
  | cons p rest ih =>
    obtain ⟨t, m⟩ := p
    rw [bump]
    by_cases hts : t = s
    · subst hts
      rw [if_pos rfl, List.map_cons, List.map_cons, if_pos List.mem_cons_self]
    · have hmem : s ∈ ((t, m) :: rest).map Prod.fst ↔ s ∈ rest.map Prod.fst := by
        rw [List.map_cons, List.mem_cons]
        exact or_iff_right fun heq => hts heq.symm
      rw [if_neg hts, List.map_cons, ih]
      simp only [hmem]
      split <;> rfl

theorem nodup_keys_bump (h : (counters.map Prod.fst).Nodup) (s : Series) (n : UInt64) :
    ((bump counters s n).map Prod.fst).Nodup := by
  rw [keys_bump]
  split
  · exact h
  · rename_i hnew
    have hdisjoint : ∀ t ∈ counters.map Prod.fst, ∀ u ∈ [s], t ≠ u := by
      intro t ht u hu heq
      rw [List.mem_singleton.mp hu] at heq
      exact hnew (heq ▸ ht)
    exact List.nodup_append.mpr ⟨h, List.nodup_singleton s, hdisjoint⟩

end Exported

/-- What an event adds to the exported series: the counters, the values of their labels, and the
amounts. -/
def Event.bumps : Event → List (Counter × String × UInt64)
  | .request outcome => [(.requests, outcome.label, 1)]
  | .recordsAccepted n => if n = 0 then [] else [(.recordsAccepted, "", n)]
  | .recordRejected label => [(.recordsRejected, label, 1)]
  | .embeddingFailure => [(.embeddingFailures, "", 1)]
  | .duplicateSuppressed => [(.duplicatesSuppressed, "", 1)]
  | .batchFlushed n => [(.batchesFlushed, "", 1), (.recordsStored, "", n)]
  | .batchDropped n =>
    (.batchesDropped, "", 1) :: if n = 0 then [] else [(.recordsDropped, "", n)]
  | .recordsDropped n => if n = 0 then [] else [(.recordsDropped, "", n)]
  | .storageRetry => [(.storageRetries, "", 1)]

namespace Exported

/-- The lines after some additions. -/
def bumpAll (counters : List (Series × UInt64)) (bumps : List (Counter × String × UInt64)) :
    List (Series × UInt64) :=
  bumps.foldl (fun counters b => bump counters (b.1.series b.2.1) b.2.2) counters

theorem counters_dropRecords (x : Exported) (n : UInt64) : (x.dropRecords n).counters =
    bumpAll x.counters (if n = 0 then [] else [(.recordsDropped, "", n)]) := by
  rw [dropRecords]
  split <;> rfl

theorem counters_add (x : Exported) (e : Event) :
    (x.add e).counters = bumpAll x.counters e.bumps := by
  cases e with
  | recordsAccepted n =>
    rw [add, Event.bumps]
    split <;> rfl
  | batchDropped n => exact counters_dropRecords _ n
  | recordsDropped n => exact counters_dropRecords x n
  | _ => rfl

end Exported

/-- What an event adds to the series of a counter is its share. -/
theorem Counter.share_eq (c : Counter) (e : Event) :
    c.share e = ((e.bumps.filter fun b => b.1 = c).map fun b => b.2.2.toNat).sum := by
  cases e with
  | recordsAccepted n | recordsDropped n | batchDropped n =>
    by_cases hn : n = 0
    · subst hn
      cases c <;> rfl
    · cases c <;> simp [Counter.share, Event.bumps, hn]
  | _ => cases c <;> simp [Counter.share, Event.bumps]

namespace Exported

/-- What several additions add to a counter, as long as 64 bits are enough. -/
theorem readLines_bumpAll (counters : List (Series × UInt64))
    (bumps : List (Counter × String × UInt64)) (c : Counter)
    (hfits : readLines counters c +
      ((bumps.filter fun b => b.1 = c).map fun b => b.2.2.toNat).sum < 2 ^ 64) :
    readLines (bumpAll counters bumps) c = readLines counters c +
      ((bumps.filter fun b => b.1 = c).map fun b => b.2.2.toNat).sum := by
  induction bumps generalizing counters with
  | nil => rfl
  | cons b rest ih =>
    obtain ⟨c', label, n⟩ := b
    rw [List.filter_cons] at hfits ⊢
    have hbump := readLines_bump counters (c'.series label) n c
    rw [Counter.counts_series] at hbump
    rw [bumpAll, List.foldl_cons, ← bumpAll]
    by_cases hc : c' = c
    · simp only [hc, decide_true, if_true, List.map_cons, List.sum_cons] at hfits hbump ⊢
      have hbump := hbump fun _ => by omega
      rw [ih _ (by omega), hbump, Nat.add_assoc]
    · simp only [hc, decide_false, Bool.false_eq_true, if_false, Nat.add_zero] at hfits hbump ⊢
      have hbump := hbump nofun
      rw [ih _ (by omega), hbump]

/-- The share of an event is added to what is exported, as long as 64 bits are enough. -/
theorem read_add (x : Exported) (e : Event) (c : Counter)
    (hfits : x.read c + c.share e < 2 ^ 64) : (x.add e).read c = x.read c + c.share e := by
  rw [Counter.share_eq] at hfits ⊢
  rw [read, counters_add]
  exact readLines_bumpAll _ _ _ hfits

theorem nodup_bumpAll {counters : List (Series × UInt64)} (h : (counters.map Prod.fst).Nodup)
    (bumps : List (Counter × String × UInt64)) :
    ((bumpAll counters bumps).map Prod.fst).Nodup := by
  induction bumps generalizing counters with
  | nil => exact h
  | cons b rest ih => exact ih (nodup_keys_bump h _ _)

/-- Every series is one of some counter. -/
theorem known_bumpAll {counters : List (Series × UInt64)}
    (h : ∀ s ∈ counters.map Prod.fst, ∃ c : Counter, c.counts s)
    (bumps : List (Counter × String × UInt64)) :
    ∀ s ∈ (bumpAll counters bumps).map Prod.fst, ∃ c : Counter, c.counts s := by
  induction bumps generalizing counters with
  | nil => exact h
  | cons b rest ih =>
    refine ih fun s hs => ?_
    rw [keys_bump] at hs
    split at hs
    · exact h s hs
    · rcases List.mem_append.mp hs with hs | hs
      · exact h s hs
      · rw [List.mem_singleton.mp hs]
        exact ⟨b.1, by rw [Counter.counts_series]; exact decide_eq_true rfl⟩

/-! ### Samples -/

/-- Only flushed batches are sampled. -/
theorem batchSizes_add (x : Exported) (e : Event) : (x.add e).batchSizes =
    (match e with | .batchFlushed n => [n] | _ => []) ++ x.batchSizes := by
  cases e with
  | recordsAccepted n | recordsDropped n | batchDropped n =>
    by_cases hn : n = 0 <;> simp [add, dropRecords, count, hn]
  | _ => rfl

theorem flushDurations_add (x : Exported) (e : Event) : (x.add e).flushDurations =
    x.flushDurations + UInt64.ofNat (Counter.batchesFlushed.share e) := by
  cases e with
  | recordsAccepted n | recordsDropped n | batchDropped n =>
    by_cases hn : n = 0 <;> simp [add, dropRecords, count, hn, Counter.share]
  | _ => simp [add, count, countLabelled, sample, Counter.share]

theorem fullBlocks_perm (samples : List UInt64) (blocks : Nat)
    (h : samples.length = blockSize * blocks) : (fullBlocks samples blocks).Perm samples := by
  induction blocks generalizing samples with
  | zero =>
    rw [Nat.mul_zero] at h
    rw [List.eq_nil_of_length_eq_zero h]
    exact .refl _
  | succ blocks ih =>
    have hrest : (samples.drop blockSize).length = blockSize * blocks := by
      rw [List.length_drop, h, Nat.mul_succ, Nat.add_sub_cancel]
    have hparts := (List.reverse_perm (samples.take blockSize)).append (ih _ hrest)
    rw [List.take_append_drop] at hparts
    exact hparts

/-- Every sample is summed up once. -/
theorem summationOrder_perm (samples : List UInt64) : (summationOrder samples).Perm samples := by
  have hdivision := Nat.div_add_mod samples.length blockSize
  have hrest : (samples.drop (samples.length % blockSize)).length =
      blockSize * (samples.length / blockSize) := by
    rw [List.length_drop]
    omega
  have hparts := (List.reverse_perm (samples.take (samples.length % blockSize))).append
    (fullBlocks_perm _ _ hrest)
  rw [List.take_append_drop] at hparts
  exact hparts

/-- As long as the sum is at most `2 ^ 53`, summing up goes through whole numbers. -/
theorem foldl_sum (samples : List UInt64) (begun : Nat)
    (h : begun + (samples.map UInt64.toNat).sum ≤ 2 ^ 53) :
    samples.foldl (fun sum n =>
        Number.Double.ofFloat (sum.toFloat + (Number.Double.ofNat n.toNat).toFloat))
        (.ofNat begun) =
      .ofNat (begun + (samples.map UInt64.toNat).sum) := by
  induction samples generalizing begun with
  | nil => rfl
  | cons n rest ih =>
    rw [List.map_cons, List.sum_cons] at h ⊢
    rw [List.foldl_cons, Number.Double.ofNat_add_ofNat (by omega), ih _ (by omega),
      Nat.add_assoc]

/-- **The sum of a histogram is exact** up to `2 ^ 53`, in whatever order the samples are summed
up. -/
theorem sum_eq (samples : List UInt64) (h : (samples.map UInt64.toNat).sum ≤ 2 ^ 53) :
    sum samples = .ofNat (samples.map UInt64.toNat).sum := by
  have hsum := ((summationOrder_perm samples).map UInt64.toNat).sum_nat
  have hzero : (⟨0⟩ : Number.Double) = .ofNat 0 := by decide
  rw [sum, hzero, foldl_sum _ 0 (by rw [Nat.zero_add, hsum]; exact h), hsum, Nat.zero_add]

end Exported

/-! ### Agreement -/

/-- How counts show what has happened. -/
structure Metrics.Shows (m : Metrics) (events : List Event) : Prop where
  /-- Each total is what the events contributed to it, -/
  totals : ∀ c, (m.totals.read c).toNat = (events.map c.share).sum
  /-- and is exported, -/
  exported : ∀ c, m.exported.read c = (m.totals.read c).toNat
  /-- in one line for each series, all of which are series of counters. -/
  lines : (m.exported.counters.map Prod.fst).Nodup ∧
    ∀ s ∈ m.exported.counters.map Prod.fst, ∃ c : Counter, c.counts s
  /-- Both histograms have one sample for each flushed batch, -/
  samples : m.exported.batchSizes.length = m.totals.batchesFlushed.toNat ∧
    m.exported.flushDurations = m.totals.batchesFlushed
  /-- and those of the sizes add up to the stored records. -/
  sizes : (m.exported.batchSizes.map UInt64.toNat).sum = m.totals.recordsStored.toNat

namespace Metrics

variable {m : Metrics} {events : List Event}

theorem shows_nil : Shows {} [] where
  totals c := by cases c <;> rfl
  exported c := by cases c <;> rfl
  lines := ⟨.nil, nofun⟩
  samples := ⟨rfl, rfl⟩
  sizes := rfl

/-- One more event is shown, as long as 64 bits are enough. -/
theorem Shows.add (h : m.Shows events) (e : Event)
    (hfits : ∀ c : Counter, (events.map c.share).sum + c.share e < 2 ^ 64) :
    (m.add e).Shows (events ++ [e]) := by
  have htotals : ∀ c, ((m.totals.add e).read c).toNat = (events.map c.share).sum + c.share e := by
    intro c
    have hc := hfits c
    rw [Totals.read_add, UInt64.toNat_add, UInt64.toNat_ofNat', h.totals]
    omega
  refine ⟨fun c => ?totals, fun c => ?exported, ⟨?nodup, ?known⟩, ⟨?samples, ?durations⟩, ?sizes⟩
  case totals =>
    rw [List.map_append, List.sum_append, List.map_singleton, List.sum_singleton]
    exact htotals c
  case exported =>
    have hread : m.exported.read c = (events.map c.share).sum := (h.exported c).trans (h.totals c)
    have hadd := m.exported.read_add e c (by rw [hread]; exact hfits c)
    exact (hadd.trans (congrArg (· + _) hread)).trans (htotals c).symm
  case nodup =>
    rw [Metrics.add, Exported.counters_add]
    exact Exported.nodup_bumpAll h.lines.1 _
  case known =>
    rw [Metrics.add, Exported.counters_add]
    exact Exported.known_bumpAll h.lines.2 _
  case samples =>
    have hflushed : (m.totals.add e).batchesFlushed.toNat =
        m.totals.batchesFlushed.toNat + Counter.batchesFlushed.share e :=
      (htotals .batchesFlushed).trans (congrArg (· + _) (h.totals .batchesFlushed).symm)
    change (m.exported.add e).batchSizes.length = (m.totals.add e).batchesFlushed.toNat
    rw [hflushed, Exported.batchSizes_add, List.length_append, h.samples.1, Nat.add_comm]
    cases e <;> rfl
  case durations =>
    change (m.exported.add e).flushDurations = (m.totals.add e).read .batchesFlushed
    rw [Exported.flushDurations_add, Totals.read_add, h.samples.2]
    rfl
  case sizes =>
    have hstored : (m.totals.add e).recordsStored.toNat =
        m.totals.recordsStored.toNat + Counter.recordsStored.share e :=
      (htotals .recordsStored).trans (congrArg (· + _) (h.totals .recordsStored).symm)
    change ((m.exported.add e).batchSizes.map UInt64.toNat).sum =
      (m.totals.add e).recordsStored.toNat
    rw [hstored, Exported.batchSizes_add, List.map_append, List.sum_append, h.sizes, Nat.add_comm]
    cases e <;> rfl

/-- What was shown before some events is shown with them after them. -/
theorem Shows.foldl {past : List Event} (h : m.Shows past) (events : List Event)
    (hfits : ∀ c : Counter, ((past ++ events).map c.share).sum < 2 ^ 64) :
    (events.foldl Metrics.add m).Shows (past ++ events) := by
  induction events generalizing m past with
  | nil =>
    rw [List.append_nil]
    exact h
  | cons e rest ih =>
    have hassoc : past ++ e :: rest = (past ++ [e]) ++ rest := by simp
    rw [hassoc] at hfits ⊢
    refine ih (h.add e fun c => ?_) hfits
    have hc := hfits c
    rw [List.map_append, List.map_append, List.sum_append, List.sum_append, List.map_singleton,
      List.sum_singleton] at hc
    omega

/-- **Totals and exported series agree** after all events for which 64 bits are enough, and the sum
of the sizes of batches is the number of stored records up to `2 ^ 53`. -/
theorem totals_and_series_agree (events : List Event)
    (hfits : ∀ c : Counter, (events.map c.share).sum < 2 ^ 64) :
    let m := events.foldl Metrics.add {}
    m.Shows events ∧ (m.totals.recordsStored.toNat ≤ 2 ^ 53 →
      (Exported.sum m.exported.batchSizes).Holds m.totals.recordsStored.toNat) := by
  intro m
  have hshows : m.Shows events := shows_nil.foldl events hfits
  refine ⟨hshows, fun hstored => ?_⟩
  rw [← hshows.sizes] at hstored ⊢
  rw [Exported.sum_eq _ hstored]
  exact Number.Double.holds_ofNat hstored

/-- Requests and lines with several labels, and batches with and without records. -/
def someEvents : List Event :=
  [.request .partly, .request .closing, .recordsAccepted 5, .recordsAccepted 0,
    .recordRejected "parse_error", .recordRejected "queue_full", .batchFlushed 3, .batchFlushed 0,
    .batchDropped 2, .batchDropped 0, .recordsDropped 4, .recordsDropped 0, .storageRetry]

theorem totals_and_series_agree_someEvents :
    (∀ c : Counter, (someEvents.map c.share).sum < 2 ^ 64) ∧
      (someEvents.foldl Metrics.add {}).Shows someEvents ∧
      (Exported.sum (someEvents.foldl Metrics.add {}).exported.batchSizes).Holds 3 := by
  have hfits : ∀ c : Counter, (someEvents.map c.share).sum < 2 ^ 64 := by
    intro c
    cases c <;> decide
  obtain ⟨hshows, hsum⟩ := totals_and_series_agree someEvents hfits
  exact ⟨hfits, hshows, hsum (by decide)⟩

/-- The least number that is no double is rounded in the sum of the sizes of batches. -/
theorem not_forall_sum_exact : ¬ ∀ events : List Event,
    (∀ c : Counter, (events.map c.share).sum < 2 ^ 64) →
      let m := events.foldl Metrics.add {}
      m.Shows events ∧ (Exported.sum m.exported.batchSizes).Holds m.totals.recordsStored.toNat := by
  intro hall
  obtain ⟨-, -, significand, exponent, hmagnitude, hvalue⟩ :=
    hall [.batchFlushed 9007199254740993] fun c => by cases c <;> decide
  have hrounded : (Exported.sum [9007199254740993]).magnitude = .finite (2 ^ 52) 1 := by
    decide +kernel
  obtain ⟨rfl, rfl⟩ := Number.Format.Magnitude.finite.inj (hmagnitude.symm.trans hrounded)
  exact absurd hvalue (by decide)

end Metrics

end LogIntake
