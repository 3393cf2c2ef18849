import Mathlib.Algebra.BigOperators.Group.List.Basic
import LogIntake.Proofs.Pipeline.Books

/-!
# Attempts to write a batch

`World.attempts` lists the attempts that were made to write a batch, with the time at which each
ends. `World.Tried` says how they account for where the batch stands: a batch in flight stands as
its call does after them (`Call.After`), and one that was disposed of met its fate with the
response of its last attempt, or because the deadline had come (`Disposal.Accounted`). Nothing is
written but batches that were taken, so a batch that has just been taken has no attempts, and one
that was disposed of gets no more.

`Run.tried` shows it for every run. Where everything happens promptly a batch that is cut off at
the deadline had no success before it (`Run.le_due_of_cutOff`).
-/

namespace LogIntake.Pipeline

/-- The attempts to write a batch among some writes, last one first; the `n`-th of all writes takes
as long as the store says. -/
def attemptsAmong (insert : Nat → Reply Unit) (batch : Batch) :
    List Write → List (Call.Attempt Unit)
  | [] => []
  | x :: earlier =>
    if x.batch = batch then
      ⟨x.time + (insert earlier.length).delay, x.response⟩ :: attemptsAmong insert batch earlier
    else attemptsAmong insert batch earlier

/-- How the attempts to write a batch, last one first, account for what became of it. -/
inductive Disposal.Accounted (b : Backoff) (past : List (Call.Attempt Unit)) (d : Disposal) :
    Prop where
  /-- Before the deadline the write ended as its last attempt did; after a failure that may pass
  no attempt was left. -/
  | ended {due : Nat} {r : Response Unit} {earlier : List (Call.Attempt Unit)}
      (hearly : ∀ t, d.deadline = some t → d.time < t) (hpast : past = ⟨due, r⟩ :: earlier)
      (hdue : due ≤ d.time) (hfate : d.fate = .ofResponse r)
      (hlast : ∀ f, r = .fails f → f.isTransient = true → past.length = b.maxRetries.toNat + 1)
  /-- The deadline had come. -/
  | cutOff {t : Nat} (hfate : d.fate = .cutOff) (hdeadline : d.deadline = some t)
      (hlate : t ≤ d.time)

namespace World

/-- The attempts to write a batch, last one first. -/
def attempts (w : World) (batch : Batch) : List (Call.Attempt Unit) :=
  attemptsAmong w.backend.insert batch w.writes

variable {w v : World} {i : Nat} {k k' : Worker} {batch : Batch}

theorem length_attempts (w : World) (batch : Batch) :
    (w.attempts batch).length = w.writes.countP (·.batch = batch) := by
  rw [attempts]
  induction w.writes with
  | nil => rfl
  | cons x earlier ih =>
    rw [attemptsAmong, List.countP_cons]
    by_cases hx : x.batch = batch
    · simp [hx, ih]
    · simp [hx, ih]

theorem attempts_eq_nil (h : ∀ x ∈ w.writes, x.batch ≠ batch) : w.attempts batch = [] := by
  rw [← List.length_eq_zero_iff, length_attempts, List.countP_eq_zero]
  simpa using h

/-- Without a write nothing is attempted. -/
theorem attempts_congr (hbackend : v.backend = w.backend) (hwrites : v.writes = w.writes)
    (batch : Batch) : v.attempts batch = w.attempts batch := by
  rw [attempts, attempts, hbackend, hwrites]

theorem attempts_cons_self {x : Write} (hbackend : v.backend = w.backend)
    (hwrites : v.writes = x :: w.writes) : v.attempts x.batch =
      ⟨x.time + (w.backend.insert w.writes.length).delay, x.response⟩ :: w.attempts x.batch := by
  rw [attempts, hwrites, hbackend, attemptsAmong, if_pos rfl, attempts]

theorem attempts_cons_of_ne {x : Write} (hbackend : v.backend = w.backend)
    (hwrites : v.writes = x :: w.writes) (hne : x.batch ≠ batch) :
    v.attempts batch = w.attempts batch := by
  rw [attempts, hwrites, hbackend, attemptsAmong, if_neg hne, attempts]

/-! ### Where batches stand -/

/-- How the attempts that were made account for where batches stand. -/
structure Tried (w : World) (b : Books) : Prop where
  written : ∀ x ∈ w.writes, x.batch ∈ b.taken
  current : ∀ k ∈ w.workers, ∀ batch call next, k.phase = .writing batch call next →
    call.After w.settings.flushRetry (w.attempts batch)
  repeats : ∀ d ∈ b.disposed, Call.Repeats w.settings.flushRetry (w.attempts d.batch)
  accounted : ∀ d ∈ b.disposed, d.Accounted w.settings.flushRetry (w.attempts d.batch)
  retries : w.settings.flushRetry.IsFinite → w.metrics.totals.storageRetries =
    UInt64.ofNat (b.taken.map fun x => (w.attempts x).length - 1).sum

theorem tried_start (s : Settings) (c : Client) (b : Backend) : (start s c b).Tried {} where
  written := nofun
  current k hk batch call next hphase := by
    rw [List.eq_of_mem_replicate hk] at hphase
    cases hphase
  repeats := nofun
  accounted := nofun
  retries _ := rfl

variable {b more : Books}

theorem mem_inFlight (hk : k ∈ w.workers) {call : Call Unit} {next : Next}
    (hphase : k.phase = .writing batch call next) : batch ∈ w.inFlight :=
  List.mem_flatMap.mpr ⟨k, hk, by simp [hphase, Phase.inFlight]⟩

/-- How the books stand so that batches can be told apart by what was taken. -/
structure Separate (w : World) (b : Books) : Prop where
  nodup : b.taken.Nodup
  custody : b.taken.Perm (b.disposed.map Disposal.batch ++ w.inFlight)

theorem Separate.mem_taken (hb : w.Separate b) (hx : batch ∈ w.inFlight) : batch ∈ b.taken :=
  hb.custody.mem_iff.mpr (List.mem_append_right _ hx)

/-- A batch in flight has not been disposed of. -/
theorem Separate.ne_of_mem (hb : w.Separate b) (hx : batch ∈ w.inFlight) {d : Disposal}
    (hd : d ∈ b.disposed) : batch ≠ d.batch := by
  have hapart := (List.nodup_append.mp (hb.custody.nodup_iff.mp hb.nodup)).2.2
  exact (hapart _ (List.mem_map_of_mem hd) _ hx).symm

theorem Separate.nodup_inFlight (hb : w.Separate b) : w.inFlight.Nodup :=
  (List.nodup_append.mp (hb.custody.nodup_iff.mp hb.nodup)).2.1

/-- A batch that has just been taken has not been written. -/
theorem Tried.attempts_of_fresh (hw : w.Tried b) (hb : v.Separate (b.add more))
    (hx : batch ∈ more.taken) : w.attempts batch = [] := by
  refine attempts_eq_nil fun x hmem heq => ?_
  have hapart := (List.nodup_append.mp hb.nodup).2.2
  exact hapart _ (hw.written x hmem) _ hx heq

/-! ### A step of a worker -/

/-- The batches that a step adds to the books without an attempt add nothing to the sum of
repetitions. -/
theorem Tried.sum_of_fresh (hw : w.Tried b) (hb : v.Separate (b.add more)) :
    ((b.add more).taken.map fun x => (w.attempts x).length - 1).sum =
      (b.taken.map fun x => (w.attempts x).length - 1).sum := by
  rw [Books.add, List.map_append, List.sum_append, Nat.add_eq_left]
  refine List.sum_eq_zero fun n hn => ?_
  obtain ⟨x, hx, rfl⟩ := List.mem_map.mp hn
  rw [hw.attempts_of_fresh hb hx]
  rfl

/-- The attempts for a batch that a worker has at the deadline: there are none for points that
have waited until then. -/
private theorem Tried.after_or_nil (hw : w.Tried b) (hk : w.workers[i]? = some k)
    (hover : w.isOver = true) (hb : v.Separate (b.add (w.booked k k')))
    (hx : batch ∈ k.phase.inFlight ++ k.waiting) :
    (∃ call next, k.phase = .writing batch call next ∧
      call.After w.settings.flushRetry (w.attempts batch)) ∨ w.attempts batch = [] := by
  rcases List.mem_append.mp hx with hx | hx
  · cases hphase : k.phase with
    | writing batch' call next =>
      obtain rfl : batch = batch' := by simpa [hphase, Phase.inFlight] using hx
      exact .inl ⟨call, next, rfl, hw.current k (List.mem_of_getElem? hk) _ _ _ hphase⟩
    | idle | embedding _ _ | stopped | broken => simp [hphase, Phase.inFlight] at hx
  · rw [booked, if_pos hover] at hb
    exact .inr (hw.attempts_of_fresh hb hx)

/-- What a step of a worker that makes no attempt adds to the books is accounted for. -/
private theorem Tried.accounted_booked (hw : w.Tried b) (hk : w.workers[i]? = some k)
    (hb : v.Separate (b.add (w.booked k k'))) {d : Disposal}
    (hd : d ∈ (w.booked k k').disposed) :
    Call.Repeats w.settings.flushRetry (w.attempts d.batch) ∧
      d.Accounted w.settings.flushRetry (w.attempts d.batch) := by
  rcases mem_disposed_booked hd with
    ⟨hover, x, hx, rfl⟩ | ⟨hover, batch, call, next, r, hphase, hstep, rfl⟩
  · obtain ⟨t, ht, hlate⟩ := exists_le_of_isOver hover
    refine ⟨?_, .cutOff rfl ht hlate⟩
    rcases hw.after_or_nil hk hover hb hx with ⟨call, next, -, hafter⟩ | hnone
    · exact hafter.repeats
    · simp only [disposal, hnone]
      exact Call.repeats_nil _
  · have hafter := hw.current k (List.mem_of_getElem? hk) _ _ _ hphase
    obtain ⟨due, hdue, earlier, hpast, hlast⟩ := hafter.of_ended (goes_of_writeProgress hstep)
    exact ⟨hafter.repeats, .ended (fun t ht => lt_of_isOver ht hover) hpast hdue rfl hlast⟩

/-- A step of a worker that makes no attempt. -/
private theorem Tried.works_quietly (hw : w.Tried b) (h : w.Works i k v)
    (hk : w.workers[i]? = some k) (hv : v.workers = w.workers.set i k')
    (hb : v.Separate (b.add (w.booked k k'))) (hquiet : w.WritesNothing v)
    (hafter : ∀ batch call next, k'.phase = .writing batch call next →
      call.After w.settings.flushRetry (w.attempts batch)) : v.Tried (b.add (w.booked k k')) := by
  have hsame := attempts_congr h.frame.backend hquiet.writes
  have hnew := fun d (hd : d ∈ (w.booked k k').disposed) => hw.accounted_booked hk hb hd
  refine ⟨?_, fun l hl batch call next hphase => ?_, ?_, ?_, fun hmax => ?_⟩
  · rw [hquiet.writes]
    exact fun x hx => List.mem_append_left _ (hw.written x hx)
  · rw [h.frame.settings, hsame]
    rw [hv] at hl
    rcases List.mem_or_eq_of_mem_set hl with hl | rfl
    · exact hw.current l hl batch call next hphase
    · exact hafter batch call next hphase
  · simp only [h.frame.settings, hsame]
    exact List.forall_mem_append.mpr ⟨hw.repeats, fun d hd => (hnew d hd).1⟩
  · simp only [h.frame.settings, hsame]
    exact List.forall_mem_append.mpr ⟨hw.accounted, fun d hd => (hnew d hd).2⟩
  · rw [h.frame.settings] at hmax
    simp only [hsame]
    rw [hquiet.retries, hw.retries hmax, hw.sum_of_fresh hb]

/-- One attempt more to write a batch is one repetition more, unless it is the first one. -/
private theorem sum_of_began {batches : List Batch} (hnodup : batches.Nodup)
    (hmem : batch ∈ batches) {f g : Batch → Nat} (hself : g batch = f batch + 1)
    (hother : ∀ x, x ≠ batch → g x = f x) : (batches.map fun x => g x - 1).sum =
      (batches.map fun x => f x - 1).sum + if 0 < f batch then 1 else 0 := by
  have hperm := List.perm_cons_erase hmem
  have hsame : (batches.erase batch).map (fun x => g x - 1) =
      (batches.erase batch).map fun x => f x - 1 := by
    refine List.map_congr_left fun x hx => ?_
    rw [hother x (hnodup.mem_erase_iff.mp hx).1]
  rw [(hperm.map _).sum_eq, (hperm.map fun x => f x - 1).sum_eq, List.map_cons, List.map_cons,
    List.sum_cons, List.sum_cons, hsame, hself]
  split <;> omega

/-- A step of a worker that makes an attempt. -/
private theorem Tried.works_begins (hw : w.Tried b) (hb : w.Separate b) (h : w.Works i k v)
    (hk : w.workers[i]? = some k) (hv : v.workers = w.workers.set i k')
    {call call' : Call Unit} {next : Next} (hphase : k.phase = .writing batch call next)
    (hstep : w.writeProgress call = .began call')
    (hafter : k'.phase = .writing batch call' next)
    (hwrites : v.writes = ⟨w.now, batch, (w.backend.insert w.writes.length).response⟩ :: w.writes)
    (hmetrics : v.metrics =
      if 1 < call'.attempts then w.metrics.add .storageRetry else w.metrics) : v.Tried b := by
  have hflight := mem_inFlight (List.mem_of_getElem? hk) hphase
  have hself : v.attempts batch = ⟨w.now + (w.backend.insert w.writes.length).delay,
      (w.backend.insert w.writes.length).response⟩ :: w.attempts batch :=
    attempts_cons_self h.frame.backend hwrites
  have hother : ∀ x, batch ≠ x → v.attempts x = w.attempts x :=
    fun x hx => attempts_cons_of_ne h.frame.backend hwrites hx
  obtain ⟨hcount, hnow⟩ := (hw.current k (List.mem_of_getElem? hk) _ _ _ hphase).of_began
    (goes_of_writeProgress hstep)
  rw [← hself] at hnow
  refine ⟨?_, fun l hl batch' call'' next' hl' => ?_, fun d hd => ?_, fun d hd => ?_,
    fun hmax => ?_⟩
  · rw [hwrites]
    exact List.forall_mem_cons.mpr ⟨hb.mem_taken hflight, hw.written⟩
  · rw [h.frame.settings]
    obtain ⟨j, hj⟩ := List.getElem?_of_mem hl
    by_cases hij : i = j
    · subst hij
      obtain rfl := eq_of_getElem?_set hk (hv ▸ hj)
      cases hafter.symm.trans hl'
      exact hnow
    · rw [hv, List.getElem?_set_ne hij] at hj
      -- No other worker writes this batch.
      have hne : batch ≠ batch' := by
        rintro rfl
        exact hij (index_eq_of_nodup hb.nodup_inFlight hk hj (x := batch)
          (by simp [hphase, Phase.inFlight]) (by simp [hl', Phase.inFlight]))
      rw [hother _ hne]
      exact hw.current l (List.mem_of_getElem? hj) _ _ _ hl'
  · rw [h.frame.settings, hother _ (hb.ne_of_mem hflight hd)]
    exact hw.repeats d hd
  · rw [h.frame.settings, hother _ (hb.ne_of_mem hflight hd)]
    exact hw.accounted d hd
  · rw [h.frame.settings] at hmax
    have hlength : (v.attempts batch).length = (w.attempts batch).length + 1 := by
      rw [hself, List.length_cons]
    have hsum := sum_of_began (f := fun x => (w.attempts x).length)
      (g := fun x => (v.attempts x).length) hb.nodup (hb.mem_taken hflight) hlength
      fun x hx => by rw [hother x (Ne.symm hx)]
    have hbound := hnow.repeats.bounded hmax
    rw [hlength] at hbound
    -- The number of attempts has not begun again, so it tells the first one from the others.
    have hrepeat : 1 < call'.attempts ↔ 0 < (w.attempts batch).length := by
      rw [hcount, UInt32.lt_iff_toNat_lt, Backoff.toNat_ofNat_attempts hmax hbound,
        UInt32.toNat_one]
      omega
    rw [hsum, hmetrics, UInt64.ofNat_add, ← hw.retries hmax]
    by_cases hfirst : 0 < (w.attempts batch).length
    · rw [if_pos (hrepeat.mpr hfirst), if_pos hfirst]
      rfl
    · rw [if_neg (fun hlt => hfirst (hrepeat.mp hlt)), if_neg hfirst]
      exact (UInt64.add_zero _).symm

theorem Tried.works (hw : w.Tried b) (hb : w.Separate b) (h : w.Works i k v)
    (hk : w.workers[i]? = some k) (hv : v.workers = w.workers.set i k')
    (hpursues : w.Pursues v k k') (hb' : v.Separate (b.add (w.booked k k'))) :
    v.Tried (b.add (w.booked k k')) := by
  cases hpursues with
  | begins hphase hover hstep hafter hwrites hmetrics =>
    have hbooked : w.booked k k' = {} := by simp [booked, hover, hphase, hstep]
    rw [hbooked, Books.add_empty]
    exact hw.works_begins hb h hk hv hphase hstep hafter hwrites hmetrics
  | @goesOn batch₀ call₀ call' next₀ hphase hstep hafter hquiet =>
    refine hw.works_quietly h hk hv hb' hquiet fun batch call next heq => ?_
    cases hafter.symm.trans heq
    exact (hw.current k (List.mem_of_getElem? hk) _ _ _ hphase).of_moved
      (goes_of_writeProgress hstep)
  | @takes batch₀ next₀ hphase hover hafter hquiet =>
    refine hw.works_quietly h hk hv hb' hquiet fun batch call next heq => ?_
    cases hafter.symm.trans heq
    have hfresh : batch₀ ∈ (w.booked k k').taken := by
      cases hold : k.phase with
      | idle | embedding _ _ => simp [booked, hover, hold, hafter, Phase.inFlight]
      | writing _ _ _ | stopped | broken => simp [hold, Phase.mayHold] at hphase
    rw [hw.attempts_of_fresh hb' hfresh]
    exact Call.after_start _
  | rests hafter hquiet =>
    exact hw.works_quietly h hk hv hb' hquiet fun batch call next heq =>
      absurd heq (hafter batch call next)

/-! ### Every step -/

theorem Booked.separate {l : Ledger} (hw : w.Booked l b) (hl : w.Balanced l) : w.Separate b :=
  ⟨nodup_of_flatten (hw.nodup hl) hw.inhabited, hw.custody⟩

/-- **Every step keeps the account** of the attempts. -/
theorem Tried.apply {l : Ledger} {a : Action} (hw : w.Tried b) (hbooked : w.Booked l b)
    (hl : w.Balanced l) (h : w.apply a = some v) : v.Tried (b.add (w.booking v a)) := by
  have hb := hbooked.separate hl
  have hb' := (hbooked.apply hl.orderly h).separate (hl.apply h)
  obtain ⟨i, k, rfl, hk, hworks⟩ | ⟨hother, hoccurs⟩ := apply_cases h
  · obtain ⟨k', hv, hpursues⟩ := hworks.pursues
    have hk' : v.workers[i]? = some k' := by rw [hv, getElem?_set_worker hk]
    rw [booking_work hk hk'] at hb' ⊢
    exact hw.works hb hworks hk hv hpursues hb'
  · rw [booking_eq_empty hother, Books.add_empty]
    have hfixed := fixed_of_apply h
    have hquiet : v.writes = w.writes ∧ v.metrics = w.metrics := by
      obtain ⟨j, m, e, harrives⟩ | hstill := hoccurs.arrives_or_still hl.orderly
      · exact ⟨harrives.writes, harrives.metrics⟩
      · exact ⟨hstill.writes, hstill.metrics⟩
    have hsame := attempts_congr hfixed.backend hquiet.1
    refine ⟨?_, fun m hm batch call next hphase => ?_, ?_, ?_, fun hmax => ?_⟩
    · rw [hquiet.1]
      exact hw.written
    · obtain ⟨k, hk, queue, rfl⟩ := hoccurs.workers.2 m hm
      rw [hfixed.settings, hsame]
      exact hw.current k hk batch call next hphase
    · simp only [hfixed.settings, hsame]
      exact hw.repeats
    · simp only [hfixed.settings, hsame]
      exact hw.accounted
    · rw [hfixed.settings] at hmax
      simp only [hsame, hquiet.2]
      exact hw.retries hmax

/-- A batch that was disposed of gets no more attempts. -/
theorem Separate.attempts_of_disposed {a : Action} (hb : w.Separate b) (h : w.apply a = some v)
    {d : Disposal} (hd : d ∈ b.disposed) : v.attempts d.batch = w.attempts d.batch := by
  obtain ⟨i, k, rfl, hk, hworks⟩ | ⟨-, hoccurs⟩ := apply_cases h
  · obtain ⟨k', -, hpursues⟩ := hworks.pursues
    have hbackend := hworks.frame.backend
    cases hpursues with
    | begins hphase hover hstep hafter hwrites hmetrics =>
      have hflight := mem_inFlight (List.mem_of_getElem? hk) hphase
      exact attempts_cons_of_ne hbackend hwrites (hb.ne_of_mem hflight hd)
    | goesOn hphase hstep hafter hquiet => exact attempts_congr hbackend hquiet.writes _
    | takes hphase hover hafter hquiet => exact attempts_congr hbackend hquiet.writes _
    | rests hafter hquiet => exact attempts_congr hbackend hquiet.writes _
  · refine attempts_congr (fixed_of_apply h).backend ?_ _
    cases hoccurs <;> rfl

/-- Where everything happens promptly no attempt to write a batch that is cut off has succeeded
before that. -/
private theorem Tried.le_due_of_cutOff {a : Action} (hw : w.Tried b) (hpunctual : w.Punctual)
    (h : w.apply a = some v) (hb : v.Separate (b.add (w.booking v a))) {d : Disposal}
    (hd : d ∈ (w.booking v a).disposed) (hfate : d.fate = .cutOff) {x : Call.Attempt Unit}
    (hx : x ∈ v.attempts d.batch) (hgives : x.response = .gives ()) : d.time ≤ x.due := by
  obtain ⟨i, k, rfl, hk, hworks⟩ | ⟨hother, -⟩ := apply_cases h
  · obtain ⟨k', hv, hpursues⟩ := hworks.pursues
    have hk' : v.workers[i]? = some k' := by rw [hv, getElem?_set_worker hk]
    rw [booking_work hk hk'] at hb hd
    rcases mem_disposed_booked hd with
      ⟨hover, batch, hbatch, rfl⟩ | ⟨-, batch, call, next, r, -, -, rfl⟩
    · -- At the deadline no attempt is made.
      have hsame : v.attempts batch = w.attempts batch := by
        refine attempts_congr hworks.frame.backend ?_ _
        cases hpursues with
        | begins _ hnot => exact absurd hover (by simp [hnot])
        | goesOn _ _ _ hquiet => exact hquiet.writes
        | takes _ _ _ hquiet => exact hquiet.writes
        | rests _ hquiet => exact hquiet.writes
      simp only [disposal, hsame] at hx ⊢
      rcases hw.after_or_nil hk hover hb hbatch with ⟨call, next, hphase, hafter⟩ | hnone
      · exact hpunctual.writing k (List.mem_of_getElem? hk) _ _ _ hphase _
          (hafter.due_mem_alarms hx hgives)
      · rw [hnone] at hx
        cases hx
    · cases r <;> cases hfate
  · rw [booking_eq_empty hother] at hd
    cases hd

end World

namespace Run

variable {s : Settings} {c : Client} {b : Backend} {w : World}

theorem tried (r : Run (World.start s c b) w) : w.Tried r.books := by
  induction r with
  | refl => exact World.tried_start s c b
  | step r a h ih => exact ih.apply r.booked r.balanced h

theorem separate (r : Run (World.start s c b) w) : w.Separate r.books :=
  r.booked.separate r.balanced

theorem accounted (r : Run (World.start s c b) w) :
    ∀ d ∈ r.books.disposed, d.Accounted s.flushRetry (w.attempts d.batch) := by
  have hsettings : w.settings = s := r.fixed.settings
  exact hsettings ▸ r.tried.accounted

/-- What was attempted for a batch is what one call repeats. -/
theorem repeats (r : Run (World.start s c b) w) (batch : Batch) :
    Call.Repeats s.flushRetry (w.attempts batch) := by
  have htried := r.tried
  have hsettings : w.settings.flushRetry = s.flushRetry := by rw [r.fixed.settings]; rfl
  rw [← hsettings]
  by_cases hmem : batch ∈ r.books.taken
  · rcases List.mem_append.mp (r.booked.custody.subset hmem) with hmem | hmem
    · obtain ⟨d, hd, rfl⟩ := List.mem_map.mp hmem
      exact htried.repeats d hd
    · obtain ⟨k, hk, hx⟩ := List.mem_flatMap.mp hmem
      cases hphase : k.phase with
      | writing batch' call next =>
        obtain rfl : batch = batch' := by simpa [hphase, Phase.inFlight] using hx
        exact (htried.current k hk _ _ _ hphase).repeats
      | idle | embedding _ _ | stopped | broken => simp [hphase, Phase.inFlight] at hx
  · have hnone : w.attempts batch = [] :=
      World.attempts_eq_nil fun x hx heq => hmem (heq ▸ htried.written x hx)
    rw [hnone]
    exact Call.repeats_nil _

/-- Where everything happens promptly no attempt to write a batch that was cut off had succeeded
before that. -/
theorem le_due_of_cutOff (r : Run (World.start s c b) w) (hprompt : r.IsPrompt) :
    ∀ d ∈ r.books.disposed, d.fate = .cutOff → ∀ a ∈ w.attempts d.batch,
      a.response = .gives () → d.time ≤ a.due := by
  induction r with
  | refl => nofun
  | @step v u r a h ih =>
    intro d hd hfate a' ha' hgives
    rcases List.mem_append.mp hd with hd | hd
    · rw [r.separate.attempts_of_disposed h hd] at ha'
      exact ih hprompt.1 d hd hfate a' ha' hgives
    · have hpunctual := (r.reachesPromptly hprompt.1).punctual_of_start
      exact r.tried.le_due_of_cutOff hpunctual h (Run.step r a h).separate hd hfate ha' hgives

end Run

end LogIntake.Pipeline
