import LogIntake.Backoff
import LogIntake.Dedup.Basic
import LogIntake.Fault

/-!
# Settings of the pipeline

The settings say how many workers share the entries, how much they may hold and how long they
may wait. Times are in milliseconds. `Settings.check` refuses settings with which no entry could
be stored or no duplicate found.
-/

namespace LogIntake.Pipeline

/-- The sizes and times of a pipeline. -/
structure Settings where
  workers : Nat
  /-- The number of entries in all queues together. -/
  queueCapacity : Nat
  /-- How long an entry waits for room in its queue. -/
  enqueueTimeout : Nat
  maxBatchSize : Nat
  /-- How long the first entry of a batch waits. -/
  maxBatchAge : Nat
  /-- How failed writes are repeated. -/
  flushRetry : Backoff
  /-- How long the workers may go on after the pipeline is told to stop. -/
  shutdownTimeout : Nat
  dedup : DedupSettings
  deriving DecidableEq, Repr

namespace Settings

/-- The number of entries in the queue of one worker. -/
def queueCapacityPerWorker (s : Settings) : Nat :=
  max (s.queueCapacity / max s.workers 1) 1

/-- Refuses settings that are unusable, naming the first reason. -/
def check (s : Settings) : Except Fault Unit :=
  if s.workers = 0 then .error (.misconfigured "workers must be at least 1")
  else if s.queueCapacity = 0 then .error (.misconfigured "queue_capacity must be at least 1")
  else if s.maxBatchSize = 0 then .error (.misconfigured "max_batch_size must be at least 1")
  else if s.maxBatchAge = 0 then .error (.misconfigured "max_batch_timeout must be positive")
  else if !(Number.Single.zero.lt s.dedup.threshold && s.dedup.threshold.le .one) then
    .error (.misconfigured "similarity threshold must be in (0, 1]")
  else if s.dedup.minExamples = 0 then
    .error (.misconfigured "min_examples must be at least 1")
  else if s.dedup.maxEntries = 0 then
    .error (.misconfigured "dedup window size must be at least 1")
  else if s.dedup.maxStreams = 0 then
    .error (.misconfigured "dedup stream cap must be at least 1")
  else .ok ()

/-- The largest number of places in one queue: three bits of a word are not for counting. -/
def largestQueue : Nat := 0x1FFFFFFFFFFFFFFF

/-- The largest number of queues in one list, which takes eight bytes for each and must have
fewer than `2 ^ 63` of them. -/
def mostQueues : Nat := 0xFFFFFFFFFFFFFFF

/-- The largest number of points that a worker can keep room for: a point takes 128 bytes, and
there must be fewer than `2 ^ 63` in all. -/
def largestBatch : Nat := 0xFFFFFFFFFFFFFF

/-- Whether there can be a list of queues for all workers, queues as long as they must be, and room
for whole batches. Memory is taken to be as large as it needs to be. -/
def fits (s : Settings) : Bool :=
  s.workers ≤ mostQueues && s.maxBatchSize ≤ largestBatch &&
    s.queueCapacityPerWorker ≤ largestQueue

end Settings

end LogIntake.Pipeline
