import LogIntake.Proofs.Pipeline.Load
import LogIntake.Proofs.Pipeline.Schedule

/-!
# The end of a pipeline

A pipeline that is told to stop takes no more entries and gives its workers a deadline.
`World.Stopping` says what holds from then on, in whatever order things happen: no entry is let
in, the deadline stays, and no backend is called after it.

Where everything happens promptly no worker runs on after the deadline, so the caller that waits
for the end never has to end a worker (`Drains.report`). That the caller gets an answer at all
comes from two sides: as long as some worker runs something can happen (`World.exists_progress`),
and not for ever, as the load gets smaller with every step at which the clock stands still
(`Drains.steps_le`). `hardStop` collects all this for the runs of a pipeline.

The load is finite where failures can be counted. Where they cannot, a store that fails at once can
keep a worker busy without any time passing, and then the deadline never comes (`Endless`).
-/

namespace LogIntake.Pipeline

namespace World

variable {w v u : World} {i : Nat} {k : Worker} {d : Nat}

/-- The deadline of a pipeline that is told to stop now. -/
def stopBy (w : World) : Nat :=
  w.now + w.settings.shutdownTimeout

/-- When a caller that tells a pipeline to stop now ends the workers that still run. -/
def endBy (w : World) : Nat :=
  w.stopBy + Schedule.grace

/-! ### Calls of backends -/

/-- No backend was called after a time. -/
structure CalledBy (w : World) (d : Nat) : Prop where
  asked : ∀ a ∈ w.asked, a.time ≤ d
  written : ∀ x ∈ w.writes, x.time ≤ d

theorem calledBy_start (s : Settings) (c : Client) (b : Backend) (d : Nat) :
    (start s c b).CalledBy d :=
  ⟨nofun, nofun⟩

theorem CalledBy.mono (h : w.CalledBy d) {d' : Nat} (hle : d ≤ d') : w.CalledBy d' :=
  ⟨fun a ha => Nat.le_trans (h.asked a ha) hle, fun x hx => Nat.le_trans (h.written x hx) hle⟩

/-- A worker calls a backend now, and only before the deadline. -/
theorem Works.calledBy (h : w.Works i k v) (hw : w.CalledBy d)
    (hnow : w.isOver = false → w.now ≤ d) : v.CalledBy d := by
  cases h
  case asks item call call' hphase hover hdue hstep =>
    exact ⟨List.forall_mem_cons.mpr ⟨hnow hover, hw.asked⟩, hw.written⟩
  case writes batch call call' next hphase hover hstep =>
    exact ⟨hw.asked, List.forall_mem_cons.mpr ⟨hnow hover, hw.written⟩⟩
  all_goals exact ⟨hw.asked, hw.written⟩

theorem Occurs.calledBy (h : w.Occurs v) (hw : w.CalledBy d) : v.CalledBy d := by
  cases h <;> exact ⟨hw.asked, hw.written⟩

/-- All calls of backends have been made in the past. -/
theorem CalledBy.apply {a : Action} (hw : w.CalledBy w.now) (h : w.apply a = some v) :
    v.CalledBy v.now := by
  obtain ⟨i, k, -, -, hworks⟩ | ⟨-, hoccurs⟩ := apply_cases h
  · rw [hworks.frame.now]
    exact hworks.calledBy hw fun _ => Nat.le_refl _
  · exact (hoccurs.calledBy hw).mono hoccurs.now_le

/-! ### After the end has begun -/

/-- A pipeline that must have stopped by a time. -/
structure Stopping (w : World) (d : Nat) : Prop where
  accepting : w.accepting = false
  deadline : w.deadline = some d
  calledBy : w.CalledBy d

theorem stopping_stop (hw : w.CalledBy w.now) : w.stop.Stopping w.stopBy where
  accepting := rfl
  deadline := rfl
  calledBy :=
    have h : w.stop.CalledBy w.now := ⟨hw.asked, hw.written⟩
    h.mono (Nat.le_add_right _ _)

theorem accepting_of_apply {a : Action} (h : w.apply a = some v) (hw : w.accepting = false) :
    v.accepting = false := by
  obtain ⟨i, k, -, -, hworks⟩ | ⟨-, hoccurs⟩ := apply_cases h
  · rw [hworks.frame.accepting]
    exact hw
  · exact hoccurs.accepting hw

/-- **The end stays in force** with every step. -/
theorem Stopping.apply {a : Action} (hw : w.Stopping d) (h : w.apply a = some v) :
    v.Stopping d := by
  have haccepting := accepting_of_apply h hw.accepting
  obtain ⟨i, k, -, -, hworks⟩ | ⟨-, hoccurs⟩ := apply_cases h
  · refine ⟨haccepting, hworks.frame.deadline.trans hw.deadline, ?_⟩
    exact hworks.calledBy hw.calledBy fun hover => Nat.le_of_lt (lt_of_isOver hw.deadline hover)
  · refine ⟨haccepting, ?_, hoccurs.calledBy hw.calledBy⟩
    rcases hoccurs.deadline with hsame | ⟨hnone, -⟩
    · exact hsame.trans hw.deadline
    · -- A deadline is given only once.
      rw [hw.deadline] at hnone
      cases hnone

/-! ### Offers that still wait when a worker stops -/

/-- When a worker stops, whoever waits for room in its queue is refused. -/
theorem Works.refuses (h : w.Works i k v) (hw : w.Orderly) (hk : w.workers[i]? = some k)
    (hgone : ∀ k', v.workers[i]? = some k' → k'.isGone = true) :
    v.offers = refuseWaiting i w.offers ∨ w.offers.any (isWaitingFor i) = false := by
  have hrunning : ∀ k', v.workers = w.workers.set i k' → k'.isClosing = false → False := by
    intro k' hv hopen
    have hstill := hgone k' (by rw [hv, getElem?_set_worker hk])
    rw [Worker.isGone_of_isClosing hopen] at hstill
    cases hstill
  cases h
  case leaves | breaks => exact .inl rfl
  case drains hphase hover hdue hqueue hclosed hnone => exact .inr hnone
  case stores batch call next hphase hover hstep | drops batch call next f hphase hover hstep =>
    right
    cases next with
    | finish => exact (hw.closing i k hk (by simp [Worker.isClosing, hphase])).offers
    | resume | embed _ _ => exact (hrunning _ rfl rfl).elim
  case flushes | interrupts | fills =>
    exact (hrunning _ rfl (isClosing_flush _ _ (by simp))).elim
  case writes | pauses =>
    exact absurd (hgone _ (getElem?_set_worker hk _)) Bool.false_ne_true
  all_goals exact (hrunning _ rfl rfl).elim

theorem refused_of_isGone {a : Action} {k' : Worker} (h : w.apply a = some v) (hw : w.Orderly)
    (hk : w.workers[i]? = some k) (hgone : k.isGone = false) (hk' : v.workers[i]? = some k')
    (hgone' : k'.isGone = true) {t : Nat} {o : Offer} (ho : w.offers[t]? = some o)
    (hwaits : isWaitingFor i o = true) :
    v.offers[t]? = some { o with state := .refused .closed } := by
  rcases worker_cases h hw hk hk' with hworks | ⟨queue, rfl⟩
  · have hstops : ∀ l, v.workers[i]? = some l → l.isGone = true := by
      intro l hl
      obtain rfl : k' = l := Option.some.inj (hk'.symm.trans hl)
      exact hgone'
    rcases hworks.refuses hw hk hstops with hrefused | hnone
    · rw [hrefused, refuseWaiting, List.getElem?_map, ho, Option.map_some, if_pos hwaits]
    · rw [List.any_eq_false] at hnone
      exact absurd hwaits (hnone o (List.mem_of_getElem? ho))
  · -- Only a step of the worker itself can stop it.
    have hrunning : k.isGone = true := hgone'
    rw [hgone] at hrunning
    cases hrunning

/-! ### The deadline in prompt runs -/

theorem exists_running (h : w.isDone = false) : ∃ k ∈ w.workers, k.isGone = false := by
  simpa [isDone] using h

/-- As long as a worker runs time does not pass the deadline. -/
theorem le_deadline_of_wait {till : Nat} (hd : w.deadline = some d) (hdone : w.isDone = false)
    (h : w.allows (.wait till) = true) : w.now < d ∧ till ≤ d := by
  obtain ⟨k, hk, hgone⟩ := exists_running hdone
  obtain ⟨hquiet, halarms⟩ := allows_wait.mp h
  have hlt : w.now < d := lt_of_isOver hd ((waits_of_isQuiet hquiet hk).deadline hgone)
  exact ⟨hlt, halarms d (deadline_mem_alarms hk hgone hd) hlt⟩

theorem Punctual.stop (hw : w.Punctual) : w.stop.Punctual where
  offers := hw.offers
  deadline _ _ _ d hd := by
    obtain rfl : w.stopBy = d := Option.some.inj hd
    exact Nat.le_add_right _ _
  age := hw.age
  writing := hw.writing

/-- After the deadline no worker runs. -/
theorem Punctual.isDone (hw : w.Punctual) (hd : w.deadline = some d) (hlate : d < w.now) :
    w.isDone = true := by
  by_contra hdone
  obtain ⟨k, hk, hgone⟩ := exists_running (by simpa using hdone)
  exact Nat.not_le_of_lt hlate (hw.deadline k hk hgone d hd)

end World

/-- How much a step brings a pipeline nearer to its end; what others do does not. -/
def Action.progress : Action → Nat
  | .work _ | .settle _ | .wait _ => 1
  | .offer _ | .close | .stop => 0

namespace World

variable {w v u : World} {d : Nat}

/-- **As long as a worker runs something can happen** that brings it nearer to its end. -/
theorem exists_progress (hd : w.deadline = some d) (hdone : w.isDone = false) :
    ∃ (a : Action) (v : World), a.progress = 1 ∧ w.allows a = true ∧ w.apply a = some v := by
  by_cases hquiet : w.isQuiet = true
  · -- Nobody can go on now, so time passes up to the first alarm that is still to come.
    obtain ⟨k, hk, hgone⟩ := exists_running hdone
    have hlt : w.now < d := lt_of_isOver hd ((waits_of_isQuiet hquiet hk).deadline hgone)
    have hmem : d ∈ w.alarms.filter (w.now < ·) :=
      List.mem_filter.mpr ⟨deadline_mem_alarms hk hgone hd, by simpa using hlt⟩
    obtain ⟨till, htill⟩ : ∃ till, (w.alarms.filter (w.now < ·)).min? = some till :=
      Option.isSome_iff_exists.mp (List.isSome_min?_of_mem hmem)
    obtain ⟨hfirst, hleast⟩ := List.min?_eq_some_iff.mp htill
    have hlater : w.now < till := by simpa using (List.mem_filter.mp hfirst).2
    refine ⟨.wait till, { w with now := till }, rfl, ?_, if_pos hlater⟩
    refine allows_wait.mpr ⟨hquiet, fun t ht hnow => hleast t ?_⟩
    exact List.mem_filter.mpr ⟨ht, by simpa using hnow⟩
  · rw [isQuiet_iff, not_and_or] at hquiet
    push Not at hquiet
    rcases hquiet with ⟨i, -, hi⟩ | ⟨t, -, ht⟩
    · obtain ⟨v, hv⟩ := Option.ne_none_iff_exists'.mp hi
      exact ⟨.work i, v, rfl, rfl, hv⟩
    · obtain ⟨v, hv⟩ := Option.ne_none_iff_exists'.mp ht
      exact ⟨.settle t, v, rfl, rfl, hv⟩

end World

/-- What can happen promptly while the caller that told a pipeline to stop waits for its end; the
steps that bring it nearer to its end are counted. -/
inductive Drains (w : World) : Nat → World → Prop where
  | begins : Drains w 0 w.stop
  | goesOn {n : Nat} {v u : World} (a : Action) (h : Drains w n v)
      (hwaits : Schedule.pollStop w.endBy v = none) (hallows : v.allows a = true)
      (hstep : v.apply a = some u) : Drains w (n + a.progress) u

namespace Drains

variable {w v : World} {n : Nat}

theorem isDone_of_pollStop {limit : Nat} (h : Schedule.pollStop limit v = none) :
    v.isDone = false := by
  rw [Schedule.pollStop] at h
  split at h
  · cases h
  · rename_i hdone
    simpa using hdone

theorem reachesPromptly (h : Drains w n v) : ReachesPromptly w.stop v := by
  induction h with
  | begins => exact .refl
  | goesOn a _ _ hallows hstep ih => exact .step a ih hallows hstep

theorem stopping (h : Drains w n v) (hw : w.CalledBy w.now) : v.Stopping w.stopBy := by
  induction h with
  | begins => exact World.stopping_stop hw
  | goesOn a _ _ _ hstep ih => exact ih.apply hstep

/-- The clock goes on, and not past the deadline. -/
theorem now_le (h : Drains w n v) (hw : w.CalledBy w.now) : w.now ≤ v.now ∧ v.now ≤ w.stopBy := by
  induction h with
  | begins => exact ⟨Nat.le_refl _, Nat.le_add_right _ _⟩
  | goesOn a h hwaits hallows hstep ih =>
    rcases World.passes_or_stands hstep with ⟨till, rfl, hlater, rfl⟩ | hstands
    · have hdeadline := (h.stopping hw).deadline
      obtain ⟨-, htill⟩ :=
        World.le_deadline_of_wait hdeadline (isDone_of_pollStop hwaits) hallows
      exact ⟨Nat.le_trans ih.1 (Nat.le_of_lt hlater), htill⟩
    · rw [hstands]
      exact ih

/-- **The caller's report**: when it comes all workers have stopped by themselves, within the time
that they were given. -/
theorem report (h : Drains w n v) (hw : w.CalledBy w.now) {u : World} {aborted : Nat}
    (hreport : Schedule.pollStop w.endBy v = some (u, aborted)) :
    u = v ∧ aborted = 0 ∧ v.isDone = true ∧ v.now - w.now ≤ w.settings.shutdownTimeout := by
  obtain ⟨hlow, hhigh⟩ := h.now_le hw
  have helapsed : v.now - w.now ≤ w.settings.shutdownTimeout := by
    rw [World.stopBy] at hhigh
    omega
  rw [Schedule.pollStop] at hreport
  split at hreport
  · rename_i hdone
    cases hreport
    exact ⟨rfl, rfl, hdone, helapsed⟩
  · split at hreport
    · rename_i hlate
      rw [World.endBy, Schedule.grace] at hlate
      omega
    · cases hreport

/-- **The end comes** after a number of steps that is known when the pipeline is told to stop. -/
theorem steps_le (h : Drains w n v) (hw : w.CalledBy w.now) (hb : w.budgets.Finite)
    (hwithin : w.IsWithin) (htidy : w.Tidy) :
    n + v.load + (w.stopBy - v.now) ≤ w.load + w.settings.shutdownTimeout := by
  induction h with
  | begins =>
    have hnow : w.stop.now = w.now := rfl
    have hload : w.stop.load = w.load := rfl
    rw [World.stopBy]
    omega
  | @goesOn n v u a h hwaits hallows hstep ih =>
    obtain ⟨r⟩ := h.reachesPromptly.reaches.run
    have hbudgets : v.budgets = w.stop.budgets := World.budgets_of_fixed r.fixed
    have hstopping := h.stopping hw
    have hwithin' := h.reachesPromptly.reaches.isWithin (w := w.stop) hb hwithin htidy
    have htidy' := h.reachesPromptly.reaches.tidy (w := w.stop) htidy
    obtain ⟨hle, hlt⟩ := World.load_of_apply hstep hstopping.accepting (hbudgets.symm ▸ hb) hwithin'
      htidy'
    cases a with
    | work i =>
      have hsmaller := hlt (.inl ⟨i, rfl⟩)
      rw [World.now_of_apply hstep nofun, Action.progress]
      omega
    | settle t =>
      have hsmaller := hlt (.inr ⟨t, rfl⟩)
      rw [World.now_of_apply hstep nofun, Action.progress]
      omega
    | wait till =>
      obtain ⟨hlater, rfl⟩ := World.apply_wait hstep
      obtain ⟨-, htill⟩ :=
        World.le_deadline_of_wait hstopping.deadline (isDone_of_pollStop hwaits) hallows
      simp only [Action.progress]
      omega
    | offer e | close | stop =>
      rw [World.now_of_apply hstep nofun, Action.progress]
      omega

end Drains

/-! ### The end of every run -/

/-- **The end** of the runs of a pipeline. -/
structure HardStop (s : Settings) (c : Client) (b : Backend) : Prop where
  /-- A pipeline that was closed or told to stop takes no more entries, for ever, and refuses each
  offer at once without a change to anything else. -/
  closed : ∀ {w v : World}, Reaches (.start s c b) w → Reaches w.close v ∨ Reaches w.stop v →
    v.accepting = false ∧ ∀ e, v.offer e = { v with
      offers := v.offers ++ [⟨e, workerOf e.source v.workers.length, .refused .closed⟩] }
  /-- After the deadline no attempt to embed and none to write begins, -/
  attempts : ∀ {w v : World}, Reaches (.start s c b) w → Reaches w.stop v →
    (∀ a ∈ v.asked, a.time ≤ w.now + s.shutdownTimeout) ∧
      ∀ x ∈ v.writes, x.time ≤ w.now + s.shutdownTimeout
  /-- and where everything happens promptly no worker runs. -/
  running : ∀ {w v : World}, ReachesPromptly (.start s c b) w → ReachesPromptly w.stop v →
    w.now + s.shutdownTimeout < v.now → ∀ k ∈ v.workers, k.isGone = true
  /-- So the caller that waits for the end does not have to end a worker, and does not wait for
  longer than the workers were given. -/
  report : ∀ {w v u : World} {n aborted : Nat}, ReachesPromptly (.start s c b) w →
    Drains w n v → Schedule.pollStop w.endBy v = some (u, aborted) →
      u = v ∧ aborted = 0 ∧ v.now - w.now ≤ s.shutdownTimeout
  /-- As long as it waits the clock does not pass the deadline, and something can happen that
  brings the pipeline nearer to its end, -/
  goesOn : ∀ {w v : World} {n : Nat}, ReachesPromptly (.start s c b) w → Drains w n v →
    Schedule.pollStop w.endBy v = none → v.now ≤ w.now + s.shutdownTimeout ∧
      ∃ (a : Action) (u : World), a.progress = 1 ∧ v.allows a = true ∧ v.apply a = some u
  /-- and if failures can be counted this happens a bounded number of times. -/
  ends : c.retry.IsFinite → s.flushRetry.IsFinite → ∀ {w v : World} {n : Nat},
    ReachesPromptly (.start s c b) w → Drains w n v → n ≤ w.load + s.shutdownTimeout
  /-- Whoever waits for room in the queue of a worker when it stops is refused for good. -/
  waiting : ∀ {w v : World} {a : Action} {i : Nat} {k k' : Worker}, Reaches (.start s c b) w →
    w.apply a = some v → w.workers[i]? = some k → k.isGone = false →
      v.workers[i]? = some k' → k'.isGone = true →
        ∀ {t : Nat} {o : Offer}, w.offers[t]? = some o → World.isWaitingFor i o = true →
          ∀ {u : World}, Reaches v u →
            u.offers[t]? = some { o with state := .refused .closed }

section

variable {s : Settings} {c : Client} {b : Backend} {w v : World}

theorem Reaches.accepting (h : Reaches w v) (hw : w.accepting = false) : v.accepting = false := by
  induction h with
  | refl => exact hw
  | step a _ hstep ih => exact World.accepting_of_apply hstep ih

theorem Reaches.calledBy (h : Reaches (.start s c b) w) : w.CalledBy w.now := by
  induction h with
  | refl => exact World.calledBy_start s c b 0
  | step a _ hstep ih => exact ih.apply hstep

theorem Reaches.stopping {d : Nat} (h : Reaches w v) (hw : w.Stopping d) : v.Stopping d := by
  induction h with
  | refl => exact hw
  | step a _ hstep ih => exact ih.apply hstep

theorem Reaches.fixed (h : Reaches w v) : World.Fixed w v := by
  obtain ⟨r⟩ := h.run
  exact r.fixed

theorem stopBy_eq (h : Reaches (.start s c b) w) : w.stopBy = w.now + s.shutdownTimeout := by
  rw [World.stopBy, h.fixed.settings]
  rfl

end

/-- **Every pipeline stops in time**, whatever its settings, its producers and its backends are,
and whatever its workers do when it is told to stop. Only that the clock gets to the deadline at
all needs failures that can be counted. -/
theorem hardStop (s : Settings) (c : Client) (b : Backend) : HardStop s c b where
  closed {w v} hw hv := by
    have hclosed : v.accepting = false := by
      rcases hv with hv | hv <;> exact hv.accepting rfl
    exact ⟨hclosed, World.offer_of_closed hclosed⟩
  attempts {w v} hw hv := by
    have hcalled := (hv.stopping (World.stopping_stop hw.calledBy)).calledBy
    rw [stopBy_eq hw] at hcalled
    exact ⟨hcalled.asked, hcalled.written⟩
  running {w v} hw hv hlate := by
    have htidy : w.stop.Tidy := hw.reaches.tidy_of_start
    have hstopping := hv.reaches.stopping (World.stopping_stop hw.reaches.calledBy)
    rw [← stopBy_eq hw.reaches] at hlate
    have hdone := (hv.punctual hw.punctual_of_start.stop htidy).isDone hstopping.deadline hlate
    exact List.all_eq_true.mp hdone
  report {w v u n aborted} hw hv hreport := by
    obtain ⟨hsame, hnone, -, helapsed⟩ := hv.report hw.reaches.calledBy hreport
    rw [hw.reaches.fixed.settings] at helapsed
    exact ⟨hsame, hnone, helapsed⟩
  goesOn {w v n} hw hv hwaits := by
    have hstopping := hv.stopping hw.reaches.calledBy
    have hnow := (hv.now_le hw.reaches.calledBy).2
    rw [stopBy_eq hw.reaches] at hnow
    exact ⟨hnow, World.exists_progress hstopping.deadline (Drains.isDone_of_pollStop hwaits)⟩
  ends hembed hwrite {w v n} hw hv := by
    have hbudgets : w.budgets = ⟨c.retry, s.flushRetry⟩ :=
      World.budgets_of_fixed hw.reaches.fixed
    have hfinite : w.budgets.Finite := by
      rw [hbudgets]
      exact ⟨hembed, hwrite⟩
    have hwithin := hw.reaches.isWithin ⟨hembed, hwrite⟩ (World.isWithin_start s c b)
      (World.tidy_start s c b)
    have hsteps := hv.steps_le hw.reaches.calledBy hfinite hwithin hw.reaches.tidy_of_start
    rw [hw.reaches.fixed.settings] at hsteps
    change _ ≤ w.load + s.shutdownTimeout at hsteps
    omega
  waiting {w v a i k k'} hw hstep hk hgone hk' hgone' {t o} ho hwaits {u} hu := by
    obtain ⟨r⟩ := hw.run
    obtain ⟨r'⟩ := hu.run
    have horderly := r.orderly (World.orderly_start s c b)
    have hrefused := World.refused_of_isGone hstep horderly hk hgone hk' hgone' ho hwaits
    exact r'.offer_of_isSettled hrefused rfl

/-! ### A caller that waits for ever -/

/-- Before the deadline a worker whose write can go on does nothing else. -/
theorem World.Works.goesOn {w v : World} {i : Nat} {k : Worker} {batch : Batch}
    {call call' : Call Unit} {next : Next} (h : w.Works i k v) (hk : w.workers[i]? = some k)
    (hphase : k.phase = .writing batch call next) (hover : w.isOver = false)
    (hgoes : w.writeProgress call = .began call' ∨ w.writeProgress call = .moved call') :
    v.workers[i]? = some { k with phase := .writing batch call' next } := by
  cases h
  case writes hphase' _ hstep | pauses hphase' _ hstep =>
    rw [hphase] at hphase'
    cases hphase'
    rw [hstep] at hgoes
    rcases hgoes with hgoes | hgoes <;> cases hgoes
    exact World.getElem?_set_worker hk _
  -- Nothing else can be: the worker is not writing there, or its write has come to an end.
  all_goals simp_all

namespace Endless

/-- One worker, whose batches have one point and are written again at once, however often. -/
def settings : Settings where
  workers := 1
  queueCapacity := 10
  enqueueTimeout := 100
  maxBatchSize := 1
  maxBatchAge := 100
  flushRetry := ⟨0xFFFFFFFF, 0, 0, Backoff.two, false⟩
  shutdownTimeout := 1000
  dedup := ⟨.one, 3, 10, 1000, 10⟩

def client : Client := ⟨1, 1000, .standard⟩

def busy : Response Unit := .fails (.writeFailed "busy")

/-- The store fails at once with every write, in a way that may pass. -/
def backend : Backend where
  embed _ _ := .after 0 (.gives [.one])
  insert _ := .after 0 busy
  check _ := .after 0 (.gives ())

/-- A write that can go on while the clock shows zero, and has nothing to wait for. -/
structure IsFutile (call : Call Unit) : Prop where
  delay : call.backoff.delay = 0
  stage : call.stage = .ready ∨ call.stage = .calling 0 busy none 0 ∨ call.stage = .resting 0

theorem nextDelay_eq_zero (delay : UInt64) : settings.flushRetry.nextDelay delay = 0 :=
  UInt64.toNat_inj.mp (Nat.le_zero.mp (settings.flushRetry.toNat_nextDelay_le delay))

/-- **A futile write goes on and stays futile.** -/
theorem IsFutile.step {call : Call Unit} (h : IsFutile call) (n : Nat) :
    ∃ call', IsFutile call' ∧
      (call.step settings.flushRetry none .queueFull (fun _ => backend.insert n) 0 = .began call' ∨
        call.step settings.flushRetry none .queueFull (fun _ => backend.insert n) 0 =
          .moved call') := by
  rcases h.stage with hready | hcalling | hresting
  · refine ⟨{ call with stage := .calling 0 busy none 0, attempts := call.attempts + 1 },
      ⟨h.delay, .inr (.inl rfl)⟩, .inl ?_⟩
    rw [Call.step, hready]
    rfl
  · -- The failure is never the last one, and the rest after it takes no time.
    refine ⟨{ call with stage := .resting 0, backoff := ⟨call.backoff.failures + 1, 0⟩ },
      ⟨rfl, .inr (.inr rfl)⟩, .inr ?_⟩
    have hleft := Backoff.afterFailure?_of_max (b := settings.flushRetry) rfl call.backoff
    rw [h.delay, nextDelay_eq_zero] at hleft
    simp only [Call.step, hcalling, Nat.le_refl, if_true, busy, Call.settle, hleft]
    rfl
  · refine ⟨{ call with stage := .ready }, ⟨h.delay, .inl rfl⟩, .inr ?_⟩
    rw [Call.step, hresting]
    rfl

/-- The first worker is at a futile write, and the clock shows zero. -/
structure Stuck (w : World) : Prop where
  now : w.now = 0
  writing : ∃ k batch call next, w.workers[0]? = some k ∧ k.phase = .writing batch call next ∧
    IsFutile call

variable {w v : World}

/-- The futile write goes on in every world that came about from the start. -/
theorem exists_writeProgress (hw : Reaches (.start settings client backend) w) (hnow : w.now = 0)
    {call : Call Unit} (h : IsFutile call) : ∃ call', IsFutile call' ∧
      (w.writeProgress call = .began call' ∨ w.writeProgress call = .moved call') := by
  rw [World.writeProgress, hw.fixed.settings, hw.fixed.backend, hnow]
  exact h.step w.writes.length

/-- A world that is stuck can go on without any time passing. -/
theorem Stuck.not_isQuiet (h : Stuck w) (hw : Reaches (.start settings client backend) w) :
    ¬ w.isQuiet = true := by
  intro hquiet
  obtain ⟨k, batch, call, next, hk, hphase, hfutile⟩ := h.writing
  have hnone : w.work 0 = none :=
    (World.isQuiet_iff.mp hquiet).1 0 (List.getElem?_eq_some_iff.mp hk).1
  obtain ⟨-, hblocked⟩ := World.writeProgress_of_work hk hphase hnone
  obtain ⟨call', -, hgoes⟩ := exists_writeProgress hw h.now hfutile
  rw [hblocked] at hgoes
  rcases hgoes with hgoes | hgoes <;> cases hgoes

/-- **What is stuck stays stuck** whatever happens promptly before the deadline. -/
theorem Stuck.apply {a : Action} (h : Stuck w) (hw : Reaches (.start settings client backend) w)
    (horderly : w.Orderly) (hover : w.isOver = false) (hallows : w.allows a = true)
    (hstep : w.apply a = some v) : Stuck v := by
  have hnow : v.now = 0 := by
    rcases World.passes_or_stands hstep with ⟨till, rfl, -, -⟩ | hstands
    · exact absurd (World.allows_wait.mp hallows).1 (h.not_isQuiet hw)
    · exact hstands.trans h.now
  obtain ⟨k, batch, call, next, hk, hphase, hfutile⟩ := h.writing
  obtain ⟨call', hfutile', hgoes⟩ := exists_writeProgress hw h.now hfutile
  have hlength : 0 < v.workers.length := by
    rw [World.length_of_apply hstep]
    exact (List.getElem?_eq_some_iff.mp hk).1
  have hk' := List.getElem?_eq_getElem hlength
  rcases World.worker_cases hstep horderly hk hk' with hworks | ⟨queue, hsame⟩
  · exact ⟨hnow, _, batch, call', next, hworks.goesOn hk hphase hover hgoes, rfl, hfutile'⟩
  · exact ⟨hnow, _, batch, call, next, hk', by rw [hsame]; exact hphase, hfutile⟩

/-- As long as a world is stuck the caller that waits for the end gets no answer. -/
theorem Stuck.pollStop (h : Stuck w) {limit : Nat} (hlimit : 0 < limit) :
    Schedule.pollStop limit w = none := by
  obtain ⟨k, batch, call, next, hk, hphase, -⟩ := h.writing
  have hdone : w.isDone ≠ true := fun hdone => by
    have hgone := List.all_eq_true.mp hdone k (List.mem_of_getElem? hk)
    rw [Worker.isGone, hphase] at hgone
    cases hgone
  rw [Schedule.pollStop, if_neg hdone, h.now, if_neg (Nat.not_le_of_lt hlimit)]

/-- Who waits for the end of what is stuck waits on, whatever happens. -/
theorem Stuck.drains (h : Stuck w) (hw : Reaches (.start settings client backend) w)
    (hd : w.deadline = none) {n : Nat} (hv : Drains w n v) : Stuck v := by
  have hstop : Reaches (.start settings client backend) w.stop :=
    .step .stop hw (by rw [World.apply, hd]; rfl)
  induction hv with
  | begins => exact ⟨h.now, h.writing⟩
  | goesOn a hv _ hallows hstep ih =>
    have hreaches := hstop.trans hv.reachesPromptly.reaches
    obtain ⟨r⟩ := hreaches.run
    refine ih.apply hreaches (r.orderly (World.orderly_start settings client backend)) ?_ hallows
      hstep
    have hdeadline := (hv.stopping hw.calledBy).deadline
    rw [stopBy_eq hw, h.now] at hdeadline
    rw [World.isOver, hdeadline, ih.now]
    rfl

/-- An entry comes and is embedded, and its point is to be written. -/
def writing? : Option World :=
  (World.start settings client backend).follow
    (.offer ⟨default, "event", "s", []⟩ :: List.replicate 3 (.work 0))

theorem isSome_writing? : writing?.isSome = true := by decide +kernel

def writing : World := writing?.get isSome_writing?

/-- Whether a worker is about to write a batch, and would do so again at once. -/
def isAboutToWrite (k : Worker) : Bool :=
  match k.phase with
  | .writing _ ⟨.ready, backoff, _⟩ _ => backoff.delay = 0
  | _ => false

theorem stuck_writing : Stuck writing := by
  refine ⟨by decide +kernel, ?_⟩
  have hfirst : (writing.workers[0]?).any isAboutToWrite = true := by decide +kernel
  obtain ⟨k, hk, hready⟩ := Option.any_eq_true _ _ |>.mp hfirst
  rw [isAboutToWrite] at hready
  split at hready
  · rename_i batch backoff attempts next hphase
    exact ⟨k, batch, _, next, hk, hphase, of_decide_eq_true hready, .inl rfl⟩
  · cases hready

theorem reaches_writing : ReachesPromptly (.start settings client backend) writing :=
  reachesPromptly_of_follow (Option.some_get isSome_writing?).symm

/-- Settings that give the workers longer than any clock can show. -/
def farOff : Settings := { settings with shutdownTimeout := 18446744073709551615000 }

end Endless

/-- A caller that tells a pipeline to stop need not get an answer: where failures cannot be counted
no wait for the end may lead to one, and where the time is too long the caller breaks. -/
theorem not_forall_answered :
    (¬ ∀ (s : Settings) (c : Client) (b : Backend) (w : World), s.check = .ok () →
      ReachesPromptly (.start s c b) w → ∃ (n : Nat) (v u : World) (aborted : Nat),
        Drains w n v ∧ Schedule.pollStop w.endBy v = some (u, aborted)) ∧
    ¬ ∀ (s : Settings) (c : Client) (b : Backend) (origin : Nat), s.check = .ok () →
      Schedule.stop? origin (.start (.start s c b)) ≠ none := by
  constructor
  · intro h
    obtain ⟨n, v, u, aborted, hv, hanswer⟩ := h Endless.settings Endless.client Endless.backend
      Endless.writing (by decide +kernel) Endless.reaches_writing
    have hstuck := Endless.stuck_writing.drains Endless.reaches_writing.reaches
      (by decide +kernel) hv
    rw [hstuck.pollStop (by decide +kernel)] at hanswer
    cases hanswer
  · intro h
    have hnone : (Schedule.stop? 0 (.start (.start Endless.farOff Endless.client
      Endless.backend))).isNone := by decide +kernel
    exact h Endless.farOff Endless.client Endless.backend 0 (by decide +kernel)
      (Option.isNone_iff_eq_none.mp hnone)

end LogIntake.Pipeline
