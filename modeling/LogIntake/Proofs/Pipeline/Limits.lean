import LogIntake.Proofs.Config.Usable
import LogIntake.Proofs.Pipeline.Stopping

/-!
# Largest settings

Neither loading nor the check of the pipeline asks for anything but smallest values, and some sizes
can be too large. A queue has at most `largestQueue` places, and each worker keeps room for a whole
batch, which has at most `largestBatch` points, so a pipeline breaks when it is started with more;
and the steady clock has a last reading, so it breaks when it is stopped with too long a time for
its workers. `Limits` says exactly when: with at least eight workers no capacity that a variable can
name is too large, but with fewer there are some that are.
-/

namespace LogIntake.Pipeline

open Config (Variables)
open Number (word64)

/-! ### Starting and stopping -/

namespace Settings

/-- Where there is a worker, all workers have the same share of the room, and at least one place
each. -/
theorem fits_iff {s : Settings} (h : 0 < s.workers) :
    s.fits ↔ s.workers ≤ mostQueues ∧ s.maxBatchSize ≤ largestBatch ∧
      s.queueCapacity / s.workers ≤ largestQueue := by
  have hshare : s.queueCapacityPerWorker ≤ largestQueue ↔
      s.queueCapacity / s.workers ≤ largestQueue := by
    rw [queueCapacityPerWorker, Nat.max_eq_left (Nat.succ_le_of_lt h), Nat.max_le]
    exact and_iff_left (by decide)
  rw [fits, Bool.and_eq_true, Bool.and_eq_true, decide_eq_true_eq, decide_eq_true_eq,
    decide_eq_true_eq, hshare, and_assoc]

/-- Eight workers or more can share any number of places that a word can name. -/
theorem share_le_largestQueue {s : Settings} (hworkers : 8 ≤ s.workers)
    (hcapacity : s.queueCapacity < word64) : s.queueCapacity / s.workers ≤ largestQueue := by
  have hbound : word64 = 8 * (largestQueue + 1) := by decide
  have hlt : s.queueCapacity / s.workers < largestQueue + 1 := by
    refine Nat.div_lt_of_lt_mul ?_
    calc s.queueCapacity
        < 8 * (largestQueue + 1) := hbound ▸ hcapacity
      _ ≤ s.workers * (largestQueue + 1) := Nat.mul_le_mul_right _ hworkers
  exact Nat.le_of_lt_succ hlt

end Settings

/-- A pipeline with settings that pass the check breaks at its start exactly where its queues
cannot be made or no room can be kept for its batches. -/
theorem World.launch_eq {s : Settings} (h : s.check = .ok ()) (c : Client) (b : Backend) :
    World.launch s c b = if s.fits then .gives (.start s c b) else .breaks := by
  rw [World.launch, h]

/-- Two durations one after the other lead to the reading after both of them, if there is one. -/
theorem later?_bind_later? (reading d e : Nat) :
    ((Time.later? reading d).bind fun r => Time.later? r e) = Time.later? reading (d + e) := by
  have hsum : reading + d * 1000000 + e * 1000000 = reading + (d + e) * 1000000 := by
    rw [Nat.add_mul, Nat.add_assoc]
  unfold Time.later?
  dsimp only
  by_cases hfirst : reading + d * 1000000 < Time.readingBound
  · rw [if_pos hfirst, Option.bind_some, hsum]
  · have hboth : ¬ reading + (d + e) * 1000000 < Time.readingBound := fun hlt =>
      hfirst (Nat.lt_of_le_of_lt (Nat.le_add_right _ _) (hsum ▸ hlt))
    rw [if_neg hfirst, if_neg hboth, Option.bind_none]

/-- A pipeline stops exactly where the steady clock has a reading for the end of the grace. -/
theorem Schedule.stop?_eq (origin : Nat) (s : Schedule) :
    s.stop? origin =
      if origin + (s.world.now + s.world.settings.shutdownTimeout + grace) * 1000000 <
        Time.readingBound then some s.stop else none := by
  calc s.stop? origin
      = (((Time.later? origin s.world.now).bind fun started =>
          Time.later? started s.world.settings.shutdownTimeout).bind fun deadline =>
            Time.later? deadline grace).map fun _ => s.stop := by
        rw [stop?, Option.map_eq_bind, Option.bind_assoc, Option.bind_assoc]
        rfl
    _ = (Time.later? origin
          (s.world.now + s.world.settings.shutdownTimeout + grace)).map fun _ => s.stop := by
        rw [later?_bind_later?, later?_bind_later?]
    _ = _ := by
        unfold Time.later?
        dsimp only
        split <;> rfl

/-! ### Settings from the environment -/

/-- What becomes of a pipeline with settings that only the width of a word can be too small for. -/
structure Settings.Limits (s : Settings) : Prop where
  /-- The check finds nothing wrong with the settings. -/
  check : s.check = .ok ()
  /-- A start breaks exactly where there are too many workers, too many points in a batch, or too
  many places for one worker. -/
  launch : ∀ c b, World.launch s c b =
    if s.workers ≤ mostQueues ∧ s.maxBatchSize ≤ largestBatch ∧
        s.queueCapacity / s.workers ≤ largestQueue then .gives (.start s c b) else .breaks
  /-- Eight workers or more never have too many places. -/
  share : 8 ≤ s.workers → s.queueCapacity / s.workers ≤ largestQueue
  /-- Whatever has happened since the start, stopping breaks exactly where the steady clock has no
  reading for the end of the grace. -/
  stop : ∀ c b origin (schedule : Schedule), Reaches (.start s c b) schedule.world →
    schedule.stop? origin =
      if origin + (schedule.world.now + s.shutdownTimeout + Schedule.grace) * 1000000 <
        Time.readingBound then some schedule.stop else none

/-- **The limits of settings** from an environment. -/
theorem limits_of_ofVariables {processors : Nat} {vars : Variables} {c : Config.Service}
    (h : Config.Service.ofVariables processors vars = .ok c) : c.pipeline.Limits := by
  have hfrom := (Config.Service.readFrom h).pipeline
  have hworkers := Variables.pos_of_positiveOr hfrom.workers
  have hcapacity : c.pipeline.queueCapacity < word64 := by
    have hnat := (Variables.positiveOr_eq_ok.mp hfrom.queueCapacity).1
    obtain hdefault | hlt := Variables.eq_or_lt_of_natOr hnat
    · rw [hdefault]
      decide
    · exact hlt
  exact {
    check := hfrom.check
    launch := fun client b => by
      rw [World.launch_eq hfrom.check]
      exact if_congr (Settings.fits_iff hworkers) rfl rfl
    share := fun height => Settings.share_le_largestQueue height hcapacity
    stop := fun client b origin schedule hreach => by
      have hsettings : schedule.world.settings = c.pipeline := hreach.fixed.settings
      rw [Schedule.stop?_eq, hsettings] }

/-- What an environment with no variable set gives to a machine with four processors. -/
theorem limits_of_no_variables : ∃ c, Config.Service.ofVariables 4 ⟨[]⟩ = .ok c ∧
    c.pipeline.Limits := by
  have hloads : (Config.Service.ofVariables 4 ⟨[]⟩).isOk := by decide +kernel
  cases h : Config.Service.ofVariables 4 ⟨[]⟩ with
  | error e =>
    rw [h] at hloads
    exact absurd hloads Bool.false_ne_true
  | ok c => exact ⟨c, rfl, limits_of_ofVariables h⟩

/-- An environment with one worker for `2 ^ 61` places. -/
def hugeQueue : Variables :=
  ⟨[("WORKER_COUNT", Text.Utf8.encode "1"),
    ("QUEUE_CAPACITY", Text.Utf8.encode "2305843009213693952")]⟩

/-- An environment with batches of `2 ^ 62` points. -/
def hugeBatch : Variables :=
  ⟨[("BATCH_SIZE", Text.Utf8.encode "4611686018427387904")]⟩

/-- An environment with the longest time to stop that a variable can name. -/
def endlessStop : Variables :=
  ⟨[("SHUTDOWN_TIMEOUT_SECS", Text.Utf8.encode "18446744073709551615")]⟩

theorem exists_of_toOption {α : Type} {vars : Variables} {f : Config.Service → α} {a : α}
    (h : ((Config.Service.ofVariables 4 vars).toOption.map f) = some a) :
    ∃ c, Config.Service.ofVariables 4 vars = .ok c ∧ f c = a := by
  cases hc : Config.Service.ofVariables 4 vars with
  | error e => simp [hc, Except.toOption] at h
  | ok c => exact ⟨c, rfl, by simpa [hc, Except.toOption] using h⟩

/-- Settings that were loaded may still break a pipeline, at its start as well as at its end. -/
theorem not_forall_unbroken :
    (∀ vars ∈ [hugeQueue, hugeBatch], ¬ ∀ c, Config.Service.ofVariables 4 vars = .ok c →
      ∀ client b, World.launch c.pipeline client b ≠ .breaks) ∧
    ¬ ∀ c, Config.Service.ofVariables 4 endlessStop = .ok c →
      ∀ client b, (Schedule.start (.start c.pipeline client b)).stop? 0 ≠ none := by
  let client : Client := ⟨1, 1000, .standard⟩
  let backend : Backend := ⟨fun _ _ => .after 0 .breaks, fun _ => .after 0 .breaks,
    fun _ => .after 0 .breaks, id⟩
  constructor
  · intro vars hvars h
    have hsize : ((Config.Service.ofVariables 4 vars).toOption.map (·.pipeline.fits)) =
        some false := by
      simp only [List.mem_cons, List.not_mem_nil, or_false] at hvars
      rcases hvars with rfl | rfl <;> decide +kernel
    obtain ⟨c, hc, hfits⟩ := exists_of_toOption hsize
    refine h c hc client backend ?_
    rw [World.launch_eq (Config.Service.readFrom hc).pipeline.check, hfits]
    rfl
  · intro h
    have htime : ((Config.Service.ofVariables 4 endlessStop).toOption.map
        (·.pipeline.shutdownTimeout)) = some 18446744073709551615000 := by decide +kernel
    obtain ⟨c, hc, htimeout⟩ := exists_of_toOption htime
    refine h c hc client backend ?_
    have hworld : (Schedule.start (.start c.pipeline client backend)).world.settings =
        c.pipeline ∧ (Schedule.start (.start c.pipeline client backend)).world.now = 0 :=
      ⟨rfl, rfl⟩
    rw [Schedule.stop?_eq, hworld.1, hworld.2, htimeout]
    exact if_neg (by decide)

end LogIntake.Pipeline
