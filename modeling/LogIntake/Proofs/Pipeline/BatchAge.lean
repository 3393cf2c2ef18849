import LogIntake.Proofs.Pipeline.Order
import LogIntake.Proofs.Pipeline.Punctual

/-!
# The age of batches

The first point that comes into an accumulator fixes when its points must be taken out, and where
everything happens promptly the clock does not pass that time. So no point waits longer than a
batch may (`ReachesPromptly.waits_le`), whatever is embedded, repeated or written meanwhile.

What becomes of the points that wait is told by `World.Works.parts`: they are taken out to be
written, all of them and with at most one point more, or counted as dropped by a worker that stops
at the deadline, or lost with a worker that breaks. The last is possible at any time before they
must be taken out, as `not_forall_taken` shows; once they must be, it is not.
-/

namespace LogIntake.Pipeline

namespace World

variable {w v : World} {i : Nat} {k k' : Worker}

/-! ### Entries that are not embedded again -/

/-- An entry that is embedded or gone: no worker has it at hand or in its queue. -/
structure Spent (w : World) (x : Item) : Prop where
  entered : x.id < w.entered
  ahead : ∀ k ∈ w.workers, x ∉ k.ahead

theorem Spent.apply {x : Item} {a : Action} (hx : w.Spent x) (hw : w.Orderly)
    (h : w.apply a = some v) : v.Spent x := by
  refine ⟨Nat.lt_of_lt_of_le hx.entered (entered_le_of_apply h), fun l hl => ?_⟩
  obtain ⟨i, k, -, hk, hworks⟩ | ⟨-, hoccurs⟩ := apply_cases h
  · obtain ⟨k', hv⟩ := hworks.workers hk
    rw [hv] at hl
    rcases List.mem_or_eq_of_mem_set hl with hl | rfl
    · exact hx.ahead l hl
    · intro hmem
      have hsublist := hworks.ahead hk (by rw [hv, getElem?_set_worker hk])
      exact hx.ahead k (List.mem_of_getElem? hk) (hsublist.subset hmem)
  · obtain ⟨i, k, e, harrives⟩ | hstill := hoccurs.arrives_or_still hw
    · rw [harrives.workers] at hl
      rcases List.mem_or_eq_of_mem_set hl with hl | rfl
      · exact hx.ahead l hl
      · -- The entry that arrives has a number of its own.
        rw [Worker.ahead_enqueue, List.mem_append, List.mem_singleton, not_or]
        refine ⟨hx.ahead k (List.mem_of_getElem? harrives.worker), ?_⟩
        rintro rfl
        exact Nat.lt_irrefl _ hx.entered
    · rw [hstill.workers] at hl
      exact hx.ahead l hl

/-- What is nowhere twice is with one worker at most. -/
theorem index_eq_of_nodup {α : Type} {f : Worker → List α} (h : (w.workers.flatMap f).Nodup)
    {j : Nat} {m : Worker} (hk : w.workers[i]? = some k) (hm : w.workers[j]? = some m) {x : α}
    (hx : x ∈ f k) (hx' : x ∈ f m) : i = j := by
  obtain ⟨hi, rfl⟩ := List.getElem?_eq_some_iff.mp hk
  obtain ⟨hj, rfl⟩ := List.getElem?_eq_some_iff.mp hm
  have hdisjoint := List.pairwise_iff_getElem.mp (List.nodup_flatMap.mp h).2
  by_contra hij
  rcases Nat.lt_or_gt_of_ne hij with hlt | hlt
  · exact hdisjoint i j hi hj hlt hx hx'
  · exact hdisjoint j i hj hi hlt hx' hx

theorem Balanced.nodup_held {l : Ledger} (hw : w.Balanced l) : w.held.Nodup := by
  have hnodup : w.accepted.Nodup := hw.orderly.nodup.of_map _
  exact (List.nodup_append.mp (hw.custody.nodup_iff.mpr hnodup)).2.1

/-- The entry of a point that waits is embedded. -/
theorem Balanced.spent {l : Ledger} (hw : w.Balanced l) (hk : w.workers[i]? = some k) {p : Point}
    (hp : p ∈ k.pending.pending) : w.Spent (itemOf p) := by
  have hitem : itemOf p ∈ k.items := by
    simp only [Worker.items, List.mem_append]
    exact .inl (.inl (.inr (List.mem_map_of_mem hp)))
  have hheld : itemOf p ∈ w.held := mem_held hk hitem
  refine ⟨hw.orderly.id_lt (hw.custody.subset (List.mem_append_right _ hheld)), ?_⟩
  intro m hm hahead
  obtain ⟨j, hj⟩ := List.getElem?_of_mem hm
  have hitem' : itemOf p ∈ m.items := (Worker.ahead_sublist _).subset hahead
  obtain rfl : i = j := index_eq_of_nodup hw.nodup_held hk hj hitem hitem'
  obtain rfl : k = m := Option.some.inj (hk.symm.trans hj)
  have hitems := (List.nodup_flatMap.mp hw.nodup_held).1 k hm
  rw [Worker.items, List.append_assoc, List.append_assoc] at hitems
  obtain ⟨-, hrest, -⟩ := List.nodup_append.mp hitems
  have hapart := (List.nodup_append.mp hrest).2.2
  exact hapart _ (List.mem_map_of_mem hp) _ hahead rfl

/-! ### What becomes of points that wait -/

/-- What a step of a worker does to the points that wait. -/
inductive Pends (w : World) (k k' : Worker) : Prop where
  | keeps (h : k'.pending = k.pending)
  | gains {item : Item} {call : Call Embedding} {x : Embedding}
      (hphase : k.phase = .embedding item call)
      (h : k'.pending = k.pending.push ⟨item.id, item.entry, x⟩ w.now)
  | parts (h : k'.pending = k.pending.cleared)

theorem Works.pends (h : w.Works i k v) :
    ∃ k', v.workers = w.workers.set i k' ∧ w.Pends k k' := by
  cases h
  case leaves | breaks => exact ⟨_, rfl, .parts rfl⟩
  case flushes | interrupts | drains => exact ⟨_, rfl, .parts (Worker.pending_flush _ _ _)⟩
  case fills => exact ⟨_, rfl, .parts (Worker.pending_flush _ _ _)⟩
  case collects hphase hover hdue hstep hdecision hroom => exact ⟨_, rfl, .gains hphase rfl⟩
  case stores | drops => exact ⟨_, rfl, .keeps (Worker.pending_proceed _ _)⟩
  all_goals exact ⟨_, rfl, .keeps rfl⟩

/-- How points come to wait no more in a step. -/
inductive Parts (w v : World) (k k' : Worker) : Prop where
  /-- They are taken out to be written, together with a point that filled the batch if one did. -/
  | taken (more : Batch) (next : Next) (h : k'.phase =
      .writing (k.pending.pending ++ more) (Call.start w.settings.flushRetry) next)
      (hmore : more.length ≤ 1)
  /-- Their worker stops at the deadline and counts them as dropped. -/
  | dropped (hover : w.isOver = true) (hphase : k'.phase = .stopped)
      (hlosses : .batchDropped (UInt64.ofNat k.pending.size) ∈ k.losses)
      (hcounted : v.metrics = k.losses.foldl Metrics.add w.metrics)
  /-- A backend breaks, and their worker with it, before they must be taken out. -/
  | lost (hphase : k'.phase = .broken) (hdue : w.isDue k.pending.deadline? = false)

theorem Works.parts (h : w.Works i k v) (htidy : k.Tidy w.settings w.now)
    (hk : w.workers[i]? = some k) (hk' : v.workers[i]? = some k') {p : Point}
    (hp : p ∈ k.pending.pending) (hp' : p ∉ k'.pending.pending) : w.Parts v k k' := by
  have hholds : k.phase.mayHold = true := htidy.mayHold (List.ne_nil_of_mem hp)
  have hsome : k.pending.isEmpty = false :=
    List.isEmpty_eq_false_iff.mpr (List.ne_nil_of_mem hp)
  have htaken : ∀ next, (k.flush w.settings.flushRetry next).phase =
      .writing (k.pending.pending ++ []) (Call.start w.settings.flushRetry) next := by
    intro next
    rw [Worker.flush_of_some _ next hsome, List.append_nil]
  cases h
  case leaves readings dedup hgone hover =>
    obtain rfl := eq_of_getElem?_set hk hk'
    refine .dropped hover rfl ?_ rfl
    cases hphase : k.phase <;>
      simp_all [Worker.losses, Worker.abandoned, Worker.isGone, Phase.mayHold]
  case breaks hover hstep =>
    obtain rfl := eq_of_getElem?_set hk hk'
    obtain ⟨item, call, hphase, hdue, -⟩ | ⟨batch, call, next, hphase, -⟩ := hstep
    · exact .lost rfl hdue
    · rw [hphase] at hholds
      cases hholds
  case flushes | interrupts | drains =>
    obtain rfl := eq_of_getElem?_set hk hk'
    exact .taken [] _ (htaken _) (Nat.zero_le _)
  case fills item call x hphase hover hdue hstep hdecision hfull =>
    obtain rfl := eq_of_getElem?_set hk hk'
    refine .taken [⟨item.id, item.entry, x⟩] .resume ?_ (Nat.le_refl _)
    rw [Worker.flush_of_some _ _ (by simp [Worker.collect])]
    rfl
  case collects =>
    obtain rfl := eq_of_getElem?_set hk hk'
    exact absurd (List.mem_append_left _ hp) hp'
  case stores | drops =>
    obtain rfl := eq_of_getElem?_set hk hk'
    rw [Worker.pending_proceed] at hp'
    exact absurd hp hp'
  all_goals
    obtain rfl := eq_of_getElem?_set hk hk'
    exact absurd hp hp'

/-! ### How long points wait -/

/-- A point that may be waiting with a worker, but if so, in an accumulator that was opened by
some time. -/
structure WaitsSince (w : World) (i : Nat) (p : Point) (t : Nat) : Prop where
  spent : w.Spent (itemOf p)
  opened : ∀ k, w.workers[i]? = some k → p ∈ k.pending.pending →
    ∃ t₀, k.pending.openedAt = some t₀ ∧ t₀ ≤ t

variable {p : Point} {t : Nat}

theorem waitsSince_now {l : Ledger} (hw : w.Balanced l) (htidy : w.Tidy)
    (hk : w.workers[i]? = some k) (hp : p ∈ k.pending.pending) : w.WaitsSince i p w.now := by
  refine ⟨hw.spent hk hp, fun k' hk' _ => ?_⟩
  obtain rfl : k = k' := Option.some.inj (hk.symm.trans hk')
  exact (htidy k (List.mem_of_getElem? hk)).pending.exists_openedAt (List.ne_nil_of_mem hp)

/-- A point that does not wait any more does not begin again, as its entry is not embedded
again. -/
theorem WaitsSince.apply {a : Action} (h : w.WaitsSince i p t) (hw : w.Orderly)
    (hstep : w.apply a = some v) : v.WaitsSince i p t := by
  refine ⟨h.spent.apply hw hstep, fun l hl hp => ?_⟩
  have hlength : i < w.workers.length := by
    rw [← length_of_apply hstep]
    exact (List.getElem?_eq_some_iff.mp hl).1
  have hk : w.workers[i]? = some w.workers[i] := List.getElem?_eq_getElem hlength
  generalize w.workers[i] = k at hk
  rcases worker_cases hstep hw hk hl with hworks | ⟨queue, rfl⟩
  · obtain ⟨k', hv, hpends⟩ := hworks.pends
    rw [hv] at hl
    obtain rfl := eq_of_getElem?_set hk hl
    cases hpends with
    | keeps hkeeps =>
      rw [hkeeps] at hp ⊢
      exact h.opened k hk hp
    | @gains item call x hphase hgains =>
      rw [hgains] at hp ⊢
      rcases List.mem_append.mp hp with hp | hp
      · obtain ⟨t₀, ht₀, hle⟩ := h.opened k hk hp
        have hsome : k.pending.isEmpty = false :=
          List.isEmpty_eq_false_iff.mpr (List.ne_nil_of_mem hp)
        rw [Accumulator.openedAt_push, if_neg (by simp [hsome])]
        exact ⟨t₀, ht₀, hle⟩
      · -- The point that joins is of the entry at hand, which is another one.
        obtain rfl := List.mem_singleton.mp hp
        refine absurd ?_ (h.spent.ahead k (List.mem_of_getElem? hk))
        simp [Worker.ahead, Phase.inHand, hphase, itemOf]
    | parts hparts =>
      rw [hparts] at hp
      cases hp
  · exact h.opened k hk hp

end World

section

variable {s : Settings} {c : Client} {b : Backend} {w v : World} {i : Nat} {k l : Worker}

theorem Reaches.orderly (h : Reaches w v) (hw : w.Orderly) : v.Orderly := by
  obtain ⟨r⟩ := h.run
  exact r.orderly hw

theorem Reaches.waitsSince {p : Point} {t : Nat} (h : Reaches w v) (hw : w.Orderly)
    (hp : w.WaitsSince i p t) : v.WaitsSince i p t := by
  induction h with
  | refl => exact hp
  | step a h hstep ih => exact ih.apply (h.orderly hw) hstep

/-- **No point waits longer** than a batch may. -/
theorem ReachesPromptly.waits_le (hw : ReachesPromptly (.start s c b) w)
    (hk : w.workers[i]? = some k) {p : Point} (hp : p ∈ k.pending.pending)
    (hv : ReachesPromptly w v) (hl : v.workers[i]? = some l) (hp' : p ∈ l.pending.pending) :
    v.now ≤ w.now + s.maxBatchAge := by
  obtain ⟨r⟩ := hw.reaches.run
  have htidy := hw.reaches.tidy_of_start
  have hsince := World.waitsSince_now r.balanced htidy hk hp
  obtain ⟨t₀, ht₀, hle⟩ := (hv.reaches.waitsSince r.balanced.orderly hsince).opened l hl hp'
  have hmem : l ∈ v.workers := List.mem_of_getElem? hl
  have hmax : l.pending.maxAge = s.maxBatchAge := by
    obtain ⟨r'⟩ := (hw.trans hv).reaches.run
    have hmax := (hv.reaches.tidy htidy l hmem).maxAge
    rw [r'.fixed.settings] at hmax
    exact hmax
  have hdeadline : l.pending.deadline? = some (t₀ + l.pending.maxAge) := by
    rw [Accumulator.deadline?, ht₀, Option.map_some]
  have hage := (hw.trans hv).punctual_of_start.age l hmem _ hdeadline
  rw [hmax] at hage
  omega

/-- When points must be taken out their worker can take a step, and takes them out in it unless
it stops at the deadline. -/
theorem World.exists_parts {w : World} (htidy : w.Tidy) (hk : w.workers[i]? = some k)
    (hdue : w.isDue k.pending.deadline? = true) : ∃ (v : World) (k' : Worker),
      w.work i = some v ∧ v.workers[i]? = some k' ∧ k'.pending.pending = [] ∧
        ((∃ next, k'.phase =
            .writing k.pending.pending (Call.start w.settings.flushRetry) next) ∨
          w.isOver = true ∧ k'.phase = .stopped) := by
  have hk' := htidy k (List.mem_of_getElem? hk)
  have hsome : k.pending.isEmpty = false := hk'.isEmpty_of_isDue hdue
  have hholds : k.phase.mayHold = true :=
    hk'.mayHold (List.isEmpty_eq_false_iff.mp hsome)
  have htaken : ∀ next, (k.flush w.settings.flushRetry next).phase =
      .writing k.pending.pending (Call.start w.settings.flushRetry) next := by
    intro next
    rw [Worker.flush_of_some _ next hsome]
  have hnothing : ∀ next, (k.flush w.settings.flushRetry next).pending.pending = [] := by
    intro next
    rw [Worker.pending_flush]
    rfl
  -- The worker does not wait, as it looks at the age of its points.
  have hacts : w.work i ≠ none := by
    intro hnone
    have hwaits := (World.waits_of_work hk hnone).age hholds
    rw [hdue] at hwaits
    cases hwaits
  obtain ⟨v, hv⟩ := Option.ne_none_iff_exists'.mp hacts
  obtain ⟨k₀, hk₀, hworks⟩ := World.works_of_work hv
  obtain rfl : k = k₀ := Option.some.inj (hk.symm.trans hk₀)
  refine ⟨v, ?_⟩
  cases hworks
  case leaves readings dedup hgone hover =>
    exact ⟨_, hv, World.getElem?_set_worker hk _, rfl, .inr ⟨hover, rfl⟩⟩
  case flushes | interrupts =>
    exact ⟨_, hv, World.getElem?_set_worker hk _, hnothing _, .inl ⟨_, htaken _⟩⟩
  case breaks hover hstep =>
    obtain ⟨item, call, hphase, hnot, -⟩ | ⟨batch, call, next, hphase, -⟩ := hstep
    · rw [hdue] at hnot
      cases hnot
    · rw [hphase] at hholds
      cases hholds
  case writes hphase _ _ | pauses hphase _ _ | stores hphase _ _ | drops hphase _ _ =>
    rw [hphase] at hholds
    cases hholds
  all_goals simp_all

/-! ### Every batch -/

/-- **The age of batches** in the runs of a pipeline. -/
structure TakenInTime (s : Settings) (c : Client) (b : Backend) : Prop where
  /-- Points that wait have a time at which they must be taken out, which the clock does not
  pass. -/
  due : ∀ {w : World}, ReachesPromptly (.start s c b) w → ∀ k ∈ w.workers,
    k.pending.pending ≠ [] → ∃ t, k.pending.deadline? = some t ∧ w.now ≤ t
  /-- It is fixed by the first of them. -/
  armed : ∀ {w v : World} {a : Action} {i : Nat} {k k' : Worker}, Reaches (.start s c b) w →
    w.apply a = some v → w.workers[i]? = some k → v.workers[i]? = some k' →
      k.pending.pending = [] → k'.pending.pending ≠ [] →
        k'.pending.deadline? = some (w.now + s.maxBatchAge)
  /-- From the moment a point begins to wait it waits no longer than a batch may, whatever
  happens meanwhile. -/
  waits : ∀ {w v : World} {i : Nat} {k l : Worker} {p : Point},
    ReachesPromptly (.start s c b) w → w.workers[i]? = some k → p ∈ k.pending.pending →
      ReachesPromptly w v → v.workers[i]? = some l → p ∈ l.pending.pending →
        v.now ≤ w.now + s.maxBatchAge
  /-- It ceases to wait without any time passing, when its batch is taken out to be written or
  dropped at the deadline, unless a backend breaks. -/
  parts : ∀ {w v : World} {a : Action} {i : Nat} {k k' : Worker} {p : Point},
    Reaches (.start s c b) w → w.apply a = some v → w.workers[i]? = some k →
      v.workers[i]? = some k' → p ∈ k.pending.pending → p ∉ k'.pending.pending →
        v.now = w.now ∧ w.Parts v k k'
  /-- Once points must be taken out nothing can come before it: the next step of their worker is
  to take them out, or to stop at the deadline. -/
  next : ∀ {w : World} {i : Nat} {k : Worker}, Reaches (.start s c b) w →
    w.workers[i]? = some k → w.isDue k.pending.deadline? = true → ∃ (v : World) (k' : Worker),
      w.work i = some v ∧ v.workers[i]? = some k' ∧ k'.pending.pending = [] ∧
        ((∃ next, k'.phase =
            .writing k.pending.pending (Call.start w.settings.flushRetry) next) ∨
          w.isOver = true ∧ k'.phase = .stopped)

/-- The first point that joins an accumulator fixes when its points must be taken out. -/
private theorem deadline?_of_first (htidy : w.Tidy) (hw : w.Orderly) {a : Action} {k' : Worker}
    (h : w.apply a = some v) (hk : w.workers[i]? = some k) (hk' : v.workers[i]? = some k')
    (hnil : k.pending.pending = []) (hsome : k'.pending.pending ≠ []) :
    k'.pending.deadline? = some (w.now + w.settings.maxBatchAge) := by
  rcases World.worker_cases h hw hk hk' with hworks | ⟨queue, rfl⟩
  · obtain ⟨k₁, hv, hpends⟩ := hworks.pends
    rw [hv] at hk'
    obtain rfl := World.eq_of_getElem?_set hk hk'
    cases hpends with
    | keeps hkeeps =>
      rw [hkeeps] at hsome
      exact absurd hnil hsome
    | gains hphase hgains =>
      have hempty : k.pending.isEmpty = true := by rw [Accumulator.isEmpty, hnil]; rfl
      have hmax := (htidy k (List.mem_of_getElem? hk)).maxAge
      rw [hgains, Accumulator.deadline?, Accumulator.openedAt_push, if_pos hempty, ← hmax]
      rfl
    | parts hparts =>
      rw [hparts] at hsome
      exact absurd rfl hsome
  · exact absurd hnil hsome

/-- **Every batch is taken in time**, whatever the settings, the producers and the backends of the
pipeline are. -/
theorem takenInTime (s : Settings) (c : Client) (b : Backend) : TakenInTime s c b where
  due {w} hw k hk hsome := by
    obtain ⟨t₀, ht₀, -⟩ := (hw.reaches.tidy_of_start k hk).pending.exists_openedAt hsome
    have hdeadline : k.pending.deadline? = some (t₀ + k.pending.maxAge) := by
      rw [Accumulator.deadline?, ht₀, Option.map_some]
    exact ⟨_, hdeadline, hw.punctual_of_start.age k hk _ hdeadline⟩
  armed {w v a i k k'} hw h hk hk' hnil hsome := by
    have horderly := hw.orderly (World.orderly_start s c b)
    obtain ⟨r⟩ := hw.run
    have hdeadline := deadline?_of_first hw.tidy_of_start horderly h hk hk' hnil hsome
    rw [r.fixed.settings] at hdeadline
    exact hdeadline
  waits hw hk hp hv hl hp' := hw.waits_le hk hp hv hl hp'
  parts {w v a i k k' p} hw h hk hk' hp hp' := by
    rcases World.worker_cases h (hw.orderly (World.orderly_start s c b)) hk hk' with
      hworks | ⟨queue, rfl⟩
    · have htidy := hw.tidy_of_start k (List.mem_of_getElem? hk)
      exact ⟨hworks.frame.now, hworks.parts htidy hk hk' hp hp'⟩
    · exact absurd hp hp'
  next hw hk hdue := World.exists_parts hw.tidy_of_start hk hdue

end

/-! ### A batch that is lost -/

namespace LostBatch

/-- One worker, whose points wait for up to 100 ms. -/
def settings : Settings where
  workers := 1
  queueCapacity := 10
  enqueueTimeout := 100
  maxBatchSize := 10
  maxBatchAge := 100
  flushRetry := .standard
  shutdownTimeout := 1000
  dedup := ⟨.one, 3, 10, 1000, 10⟩

def client : Client := ⟨1, 1000, .standard⟩

/-- One text breaks the provider. -/
def backend : Backend where
  embed _ text := .after 0 (if text = "fatal" then .breaks else .gives [.one])
  insert _ := .after 0 (.gives ())
  check _ := .after 0 (.gives ())

def entry (message : String) : Entry := ⟨default, message, "s", []⟩

/-- The point of the first entry waits, and the second entry is being embedded. -/
def waiting? : Option World :=
  (World.start settings client backend).follow
    [.offer (entry "first"), .offer (entry "fatal"), .work 0, .work 0, .work 0, .work 0, .work 0]

theorem isSome_waiting? : waiting?.isSome = true := by decide +kernel

def waiting : World := waiting?.get isSome_waiting?

theorem isSome_work : (waiting.apply (.work 0)).isSome = true := by decide +kernel

def broken : World := (waiting.apply (.work 0)).get isSome_work

end LostBatch

/-- Points that wait may be lost with their worker: they are neither taken out to be written nor
counted as dropped. -/
theorem not_forall_taken : ¬ ∀ (s : Settings) (c : Client) (b : Backend) (w v : World) (a : Action)
    (i : Nat) (k k' : Worker) (p : Point), s.check = .ok () → ReachesPromptly (.start s c b) w →
      w.apply a = some v → w.workers[i]? = some k → v.workers[i]? = some k' →
        p ∈ k.pending.pending → p ∉ k'.pending.pending →
          (∃ batch call next, k'.phase = .writing batch call next ∧ p ∈ batch) ∨
            v.metrics.totals.batchesDropped = w.metrics.totals.batchesDropped + 1 := by
  intro h
  have hwaiting : ReachesPromptly
      (.start LostBatch.settings LostBatch.client LostBatch.backend) LostBatch.waiting :=
    reachesPromptly_of_follow (Option.some_get LostBatch.isSome_waiting?).symm
  have hstep : LostBatch.waiting.apply (.work 0) = some LostBatch.broken :=
    (Option.some_get LostBatch.isSome_work).symm
  have hk := (Option.some_get (x := LostBatch.waiting.workers[0]?) (by decide +kernel)).symm
  have hk' := (Option.some_get (x := LostBatch.broken.workers[0]?) (by decide +kernel)).symm
  rcases h LostBatch.settings LostBatch.client LostBatch.backend LostBatch.waiting
    LostBatch.broken (.work 0) 0 _ _
    ⟨0, LostBatch.entry "first", [.one]⟩ (by decide +kernel) hwaiting hstep hk hk'
    (by decide +kernel) (by decide +kernel) with ⟨batch, call, next, hphase, -⟩ | hcounted
  · have hgone : ((LostBatch.broken.workers[0]?).get (by decide +kernel)).isGone = true := by
      decide +kernel
    rw [Worker.isGone, hphase] at hgone
    cases hgone
  · exact absurd hcounted (by decide +kernel)

end LogIntake.Pipeline
