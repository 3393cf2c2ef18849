import LogIntake.Proofs.Dedup.Compared
import LogIntake.Proofs.Pipeline.Capacity

/-!
# Vectors of one length

A client refuses a vector of the wrong length, and nobody after it looks at the length that is set.
Whatever comes after it relies on that: the embeddings in the windows of a deduplicator, the points
that wait and the batches that are written all have the client's length. `World.IsUniform` says so
of a world, and every step keeps it (`World.IsUniform.apply`).

What the client refuses is seen only before it. `World.answers` lists what the attempts to embed an
entry come to before the length is looked at, and `World.compared` the pairs of embeddings that the
deduplicator compares after it. An answer that is refused is counted once, and has no other effect
than that its worker goes on to the next entry (`World.work_of_wrongLength`).
-/

namespace LogIntake

/-! ### What a client refuses -/

namespace Client

/-- What the attempts to embed a text come to with the next step of a call, before the length of a
vector is looked at; `none` as long as they go on. -/
def answer? (c : Client) (text : String) (reply : Unit → Reply Embedding) (now : Nat)
    (call : Call Embedding) : Option (Except Fault Embedding) :=
  if call.attempts = 0 ∧ Text.isBlankText text then some (.error blankText)
  else
    match call.step c.retry (some c.timeout) c.lateFault reply now with
    | .ended (.gives v) => some (.ok v)
    | .ended (.fails f) => some (.error (report call.attempts f))
    | .ended .breaks | .began _ | .moved _ | .blocked => none

/-- What the client makes of an answer. -/
def judge (c : Client) : Except Fault Embedding → Response Embedding
  | .ok v => c.checkLength v
  | .error f => .fails f

/-- Whether an answer is anything but a vector of the right length. -/
def refuses (c : Client) : Except Fault Embedding → Bool
  | .ok v => v.length ≠ c.dimension
  | .error _ => true

variable {c : Client} {text : String} {reply : Unit → Reply Embedding} {now : Nat}
  {call : Call Embedding}

/-- An answer ends the call, with what the client makes of it. -/
theorem step_of_answer? {a : Except Fault Embedding} (h : c.answer? text reply now call = some a) :
    c.step text reply now call = .ended (c.judge a) := by
  unfold answer? at h
  unfold step
  split at h
  · rename_i hblank
    cases h
    exact if_pos hblank
  · rename_i hblank
    rw [if_neg hblank]
    split at h
    · rename_i v hstep
      cases h
      rw [hstep]
      rfl
    · rename_i f hstep
      cases h
      rw [hstep]
      rfl
    all_goals cases h

/-- A call that does not break ends with an answer. -/
theorem exists_answer?_of_step {r : Response Embedding} (h : c.step text reply now call = .ended r)
    (hr : r ≠ .breaks) : ∃ a, c.answer? text reply now call = some a ∧ c.judge a = r := by
  unfold step at h
  unfold answer?
  split at h
  · rename_i hblank
    cases h
    exact ⟨_, if_pos hblank, rfl⟩
  · rename_i hblank
    rw [if_neg hblank]
    split at h
    · rename_i v hstep
      cases h
      exact ⟨_, by rw [hstep], rfl⟩
    · rename_i f hstep
      cases h
      exact ⟨_, by rw [hstep], rfl⟩
    · rename_i hgives hfails
      cases r with
      | gives v => exact absurd h (hgives v)
      | fails f => exact absurd h (hfails f)
      | breaks => exact absurd rfl hr

/-- A client gives no vectors but those of the right length. -/
theorem length_of_step {v : Embedding} (h : c.step text reply now call = .ended (.gives v)) :
    v.length = c.dimension := by
  obtain ⟨a, -, ha⟩ := exists_answer?_of_step h nofun
  cases a with
  | error f => cases ha
  | ok x =>
    rw [judge, checkLength] at ha
    split at ha
    · rename_i hlength
      cases ha
      exact hlength
    · cases ha

end Client

namespace Pipeline

/-! ### Workers -/

/-- All vectors that a worker holds have a length. -/
structure Worker.IsUniform (n : Nat) (k : Worker) : Prop where
  windows : k.dedup.IsUniform n
  pending : ∀ p ∈ k.pending.pending, p.vector.length = n
  batch : ∀ p ∈ k.phase.batch, p.vector.length = n

namespace Worker

variable {k : Worker} {n : Nat}

theorem isUniform_start (n : Nat) (s : Settings) : (start s).IsUniform n :=
  ⟨nofun, nofun, nofun⟩

/-- A worker that goes on to something else than a write has no batch. -/
theorem IsUniform.moved (h : k.IsUniform n) {d : Deduplicator} (hd : d.IsUniform n) (p : Phase)
    (hp : p.batch = []) : ({ k with dedup := d, phase := p } : Worker).IsUniform n := by
  refine ⟨hd, h.pending, ?_⟩
  rw [hp]
  exact nofun

theorem IsUniform.proceed (h : k.IsUniform n) {d : Deduplicator} (hd : d.IsUniform n)
    (next : Next) : (({ k with dedup := d } : Worker).proceed next).IsUniform n := by
  cases next <;> exact h.moved hd _ rfl

/-- The points that wait become the batch. -/
theorem IsUniform.flush (h : k.IsUniform n) (b : Backoff) (next : Next) :
    (k.flush b next).IsUniform n := by
  have hcleared : ({ k with pending := k.pending.cleared } : Worker).IsUniform n :=
    ⟨h.windows, nofun, h.batch⟩
  rw [Worker.flush]
  split
  · exact hcleared.proceed hcleared.windows next
  · exact ⟨h.windows, hcleared.pending, h.pending⟩

theorem IsUniform.collect (h : k.IsUniform n) {d : Deduplicator} (hd : d.IsUniform n) (item : Item)
    {x : Embedding} (hx : x.length = n) (now : Nat) :
    (k.collect d item x now).IsUniform n := by
  refine ⟨hd, fun p hp => ?_, nofun⟩
  rcases List.mem_append.mp hp with hp | hp
  · exact h.pending p hp
  · rw [List.mem_singleton.mp hp]
    exact hx

end Worker

namespace World

variable {w v : World} {i : Nat} {k : Worker}

/-! ### Worlds -/

/-- All vectors that are held by workers at work, or have been written, have the client's
length. A worker that is gone does not look at what is left in its windows. -/
structure IsUniform (w : World) : Prop where
  workers : ∀ k ∈ w.workers, k.isGone = false → k.IsUniform w.client.dimension
  writes : ∀ x ∈ w.writes, ∀ p ∈ x.batch, p.vector.length = w.client.dimension

theorem isUniform_start (s : Settings) (c : Client) (b : Backend) : (start s c b).IsUniform where
  workers k hk _ := by
    rw [List.eq_of_mem_replicate hk]
    exact Worker.isUniform_start _ s
  writes := nofun

/-- The vector of an entry has the client's length when it comes to the deduplicator. -/
theorem length_of_embedProgress {item : Item} {call : Call Embedding} {x : Embedding}
    (h : w.embedProgress item call = .ended (.gives x)) : x.length = w.client.dimension :=
  Client.length_of_step h

private theorem Works.isUniform (h : w.Works i k v) (hk : k.IsUniform w.client.dimension) :
    ∃ k', v.workers = w.workers.set i k' ∧
      (k'.isGone = false → k'.IsUniform w.client.dimension) := by
  -- A vector is new to the worker in three of the cases, where the client has just given it. In the
  -- others the worker loses vectors, or moves them on.
  cases h
  case leaves | breaks => exact ⟨_, rfl, nofun⟩
  case flushes | interrupts | drains => exact ⟨_, rfl, fun _ => hk.flush _ _⟩
  case takes => exact ⟨_, rfl, fun _ => ⟨hk.windows, hk.pending, nofun⟩⟩
  case asks | rests | fails => exact ⟨_, rfl, fun _ => hk.moved hk.windows _ rfl⟩
  case suppresses hstep _ =>
    have hx := length_of_embedProgress hstep
    exact ⟨_, rfl, fun _ => hk.moved (hk.windows.consider hx _ _) _ rfl⟩
  case collects hstep _ _ =>
    have hx := length_of_embedProgress hstep
    exact ⟨_, rfl, fun _ => hk.collect (hk.windows.consider hx _ _) _ hx _⟩
  case fills hstep _ _ =>
    have hx := length_of_embedProgress hstep
    exact ⟨_, rfl, fun _ => (hk.collect (hk.windows.consider hx _ _) _ hx _).flush _ _⟩
  case writes hphase _ _ | pauses hphase _ _ =>
    have hbatch := hk.batch
    rw [hphase] at hbatch
    exact ⟨_, rfl, fun _ => ⟨hk.windows, hk.pending, hbatch⟩⟩
  case stores | drops => exact ⟨_, rfl, fun _ => hk.proceed (hk.windows.expire _) _⟩

theorem IsUniform.works (hw : w.IsUniform) (h : w.Works i k v) (hk : w.workers[i]? = some k) :
    v.IsUniform := by
  have huniform := hw.workers k (List.mem_of_getElem? hk) h.isGone
  obtain ⟨k', hworkers, huniform'⟩ := h.isUniform huniform
  refine ⟨fun l hl hgone => ?_, ?_⟩
  · rw [h.frame.client]
    rw [hworkers] at hl
    rcases List.mem_or_eq_of_mem_set hl with hl | rfl
    · exact hw.workers l hl hgone
    · exact huniform' hgone
  · rw [h.frame.client]
    rcases h.writes_eq with hwrites | ⟨x, hbatch, hwrites⟩
    · rw [hwrites]
      exact hw.writes
    · rw [hwrites]
      refine List.forall_mem_cons.mpr ⟨?_, hw.writes⟩
      rw [hbatch]
      exact huniform.batch

theorem IsUniform.occurs (hw : w.IsUniform) (h : w.Occurs v) (hclient : v.client = w.client) :
    v.IsUniform := by
  refine ⟨fun l hl hgone => ?_, ?_⟩
  · obtain ⟨k, hk, queue, rfl⟩ := h.workers.2 l hl
    have huniform := hw.workers k hk hgone
    rw [hclient]
    exact ⟨huniform.windows, huniform.pending, huniform.batch⟩
  · rw [h.writes_eq, hclient]
    exact hw.writes

/-- **Every step keeps all vectors at one length.** -/
theorem IsUniform.apply {a : Action} (hw : w.IsUniform) (h : w.apply a = some v) :
    v.IsUniform := by
  obtain ⟨i, k, -, hk, hworks⟩ | ⟨-, hoccurs⟩ := apply_cases h
  · exact hw.works hworks hk
  · exact hw.occurs hoccurs (fixed_of_apply h).client

/-- Workers that are ended hold nothing any more. -/
theorem IsUniform.abort (hw : w.IsUniform) : (Schedule.abort w).IsUniform := by
  refine ⟨fun l hl hgone => ?_, hw.writes⟩
  obtain ⟨k, hk, rfl⟩ := List.mem_map.mp hl
  split at hgone
  · rename_i hgone'
    rw [hgone'] at hgone
    cases hgone
  · cases hgone

/-! ### Answers and comparisons -/

/-- What the next step of a worker brings for the entry at hand, before the length of a vector is
looked at. At the deadline nothing is looked at any more, and the entry is dropped. -/
def answers (w : World) (i : Nat) : List (Item × Except Fault Embedding) :=
  match w.workers[i]? with
  | none => []
  | some k =>
    match k.phase with
    | .embedding item call =>
      if w.isOver || w.isDue k.pending.deadline? then []
      else
        let text := item.entry.message
        ((w.client.answer? text (fun _ => w.embeddingReply text) w.now call).map (item, ·)).toList
    | .idle | .writing _ _ _ | .stopped | .broken => []

/-- The pairs of embeddings that are compared in the next step of a worker. -/
def compared (w : World) (i : Nat) : List (Embedding × Embedding) :=
  match w.workers[i]? with
  | none => []
  | some k =>
    match k.phase with
    | .embedding item call =>
      if w.isOver || w.isDue k.pending.deadline? then []
      else
        match w.embedProgress item call with
        | .ended (.gives x) => (k.dedup.compared item.entry.source w.fineNow).map (·, x)
        | .ended _ | .began _ | .moved _ | .blocked => []
    | .idle | .writing _ _ _ | .stopped | .broken => []

theorem answers_of_embedding (hk : w.workers[i]? = some k) (hover : w.isOver = false)
    {item : Item} {call : Call Embedding} (hphase : k.phase = .embedding item call)
    (hdue : w.isDue k.pending.deadline? = false) : w.answers i =
      ((w.client.answer? item.entry.message (fun _ => w.embeddingReply item.entry.message) w.now
        call).map (item, ·)).toList := by
  simp only [answers, hk, hphase, hover, hdue, Bool.or_self, Bool.false_eq_true, if_false]

theorem compared_of_embedding (hk : w.workers[i]? = some k) (hover : w.isOver = false)
    {item : Item} {call : Call Embedding} (hphase : k.phase = .embedding item call)
    (hdue : w.isDue k.pending.deadline? = false) : w.compared i =
      match w.embedProgress item call with
      | .ended (.gives x) => (k.dedup.compared item.entry.source w.fineNow).map (·, x)
      | .ended _ | .began _ | .moved _ | .blocked => [] := by
  simp only [compared, hk, hphase, hover, hdue, Bool.or_self, Bool.false_eq_true, if_false]

/-- Only a worker that has an entry at hand, and nothing else to do first, gets an answer. -/
theorem exists_of_mem_answers {item : Item} {r : Except Fault Embedding}
    (h : (item, r) ∈ w.answers i) : ∃ k call, w.workers[i]? = some k ∧
      k.phase = .embedding item call ∧ w.isOver = false ∧ w.isDue k.pending.deadline? = false ∧
      w.embedProgress item call = .ended (w.client.judge r) := by
  rw [answers] at h
  split at h
  · cases h
  · rename_i k hk
    split at h
    · rename_i other call hphase
      split at h
      · cases h
      · rename_i hbusy
        rw [Bool.or_eq_true, not_or, Bool.not_eq_true, Bool.not_eq_true] at hbusy
        obtain ⟨r', hr, heq⟩ := Option.map_eq_some_iff.mp (Option.mem_toList.mp h)
        cases heq
        exact ⟨k, call, hk, hphase, hbusy.1, hbusy.2, Client.step_of_answer? hr⟩
    all_goals cases h

/-- A vector of another length is not compared with anything, and costs one count. Beyond that its
worker goes on to the next entry. -/
theorem work_of_wrongLength {item : Item} {x : Embedding} (h : (item, .ok x) ∈ w.answers i)
    (hx : x.length ≠ w.client.dimension) : w.compared i = [] ∧ ∃ k, w.workers[i]? = some k ∧
      w.work i = some ((w.count .embeddingFailure).setWorker i { k with phase := .idle }) := by
  obtain ⟨k, call, hk, hphase, hover, hdue, hstep⟩ := exists_of_mem_answers h
  have hrefused : w.embedProgress item call =
      .ended (.fails (.embeddingDimension w.client.dimension x.length)) := by
    rw [hstep, Client.judge, Client.checkLength, if_neg hx]
  refine ⟨?_, k, hk, ?_⟩
  · rw [compared_of_embedding hk hover hphase hdue, hrefused]
  · rw [embedProgress] at hrefused
    simp only [work, hk, Option.bind_eq_bind, Option.bind_some, hphase, stepEmbedding, hover, hdue,
      hrefused, Bool.false_eq_true, if_false]

/-- The decision on an entry is made by the pairs that are compared, and by nothing else. -/
theorem fst_considered (hk : w.workers[i]? = some k) (hover : w.isOver = false) {item : Item}
    {call : Call Embedding} (hphase : k.phase = .embedding item call)
    (hdue : w.isDue k.pending.deadline? = false) {x : Embedding}
    (hstep : w.embedProgress item call = .ended (.gives x)) : (w.considered k item x).1 =
      if k.dedup.settings.minExamples.toNat ≤
        (w.compared i).countP fun p => Embedding.similar k.dedup.settings.threshold p.1 p.2
      then .suppress else .accept := by
  have hpairs : w.compared i = (k.dedup.compared item.entry.source w.fineNow).map (·, x) := by
    rw [compared_of_embedding hk hover hphase hdue, hstep]
  rw [considered, Deduplicator.fst_consider, hpairs, List.countP_map]
  rfl

/-- With a vector of the client's length a worker goes on to the decision on its entry, which is
made by the pairs that are compared. -/
theorem work_of_rightLength {item : Item} {x : Embedding} (h : (item, .ok x) ∈ w.answers i)
    (hx : x.length = w.client.dimension) : ∃ k, w.workers[i]? = some k ∧
      w.work i = some (w.keep i k item x) ∧ (w.considered k item x).1 =
        if k.dedup.settings.minExamples.toNat ≤
          (w.compared i).countP fun p => Embedding.similar k.dedup.settings.threshold p.1 p.2
        then .suppress else .accept := by
  obtain ⟨k, call, hk, hphase, hover, hdue, hstep⟩ := exists_of_mem_answers h
  have hgives : w.embedProgress item call = .ended (.gives x) := by
    rw [hstep, Client.judge, Client.checkLength, if_pos hx]
  refine ⟨k, hk, ?_, fst_considered hk hover hphase hdue hgives⟩
  rw [embedProgress] at hgives
  simp only [work, hk, Option.bind_eq_bind, Option.bind_some, hphase, stepEmbedding, hover, hdue,
    hgives, Bool.false_eq_true, if_false]

/-- Only embeddings of the client's length are compared. -/
theorem IsUniform.compared (hw : w.IsUniform) {p : Embedding × Embedding}
    (hp : p ∈ w.compared i) :
    p.1.length = w.client.dimension ∧ p.2.length = w.client.dimension := by
  rw [World.compared] at hp
  split at hp
  · cases hp
  · rename_i k hk
    split at hp
    · rename_i item call hphase
      split at hp
      · cases hp
      · split at hp
        · rename_i x hstep
          obtain ⟨y, hy, rfl⟩ := List.mem_map.mp hp
          have hgone : k.isGone = false := by rw [Worker.isGone, hphase]
          have huniform := hw.workers k (List.mem_of_getElem? hk) hgone
          exact ⟨huniform.windows.compared hy, length_of_embedProgress hstep⟩
        all_goals cases hp
    all_goals cases hp

/-- With an entry at hand, a step counts a failure where it brings an answer that is refused. -/
private theorem met_failed_of_embedding (hk : w.workers[i]? = some k) (hover : w.isOver = false)
    {item : Item} {call : Call Embedding} (hphase : k.phase = .embedding item call)
    (hdue : w.isDue k.pending.deadline? = false) : (w.departures i).met .failed =
      ((w.answers i).filter fun a => w.client.refuses a.2).map Prod.fst := by
  rw [departures_of_embedding hk hover hphase hdue, answers_of_embedding hk hover hphase hdue,
    embedProgress]
  cases ha : w.client.answer? item.entry.message _ w.now call with
  | none =>
    -- The call goes on, or breaks.
    have hbreaks : ∀ r, w.client.step item.entry.message
        (fun _ => w.embeddingReply item.entry.message) w.now call = .ended r → r = .breaks := by
      intro r hr
      by_contra hne
      obtain ⟨a, ha', -⟩ := Client.exists_answer?_of_step hr hne
      rw [ha] at ha'
      cases ha'
    split
    · rename_i x hx
      cases hbreaks _ hx
    · rename_i f hf
      cases hbreaks _ hf
    · rw [Ledger.met_all, if_neg (by decide)]
      rfl
    all_goals rfl
  | some a =>
    rw [Client.step_of_answer? ha]
    cases a with
    | error f => rfl
    | ok x =>
      by_cases hx : x.length = w.client.dimension
      · simp only [Client.judge, Client.checkLength, if_pos hx]
        split <;> simp [Ledger.met_all, Client.refuses, hx]
      · simp [Client.judge, Client.checkLength, Client.refuses, hx, Ledger.met_all]

/-- The entries that leave a step as failed are those with an answer that is refused. -/
theorem met_failed_departures (w : World) (i : Nat) : (w.departures i).met .failed =
    ((w.answers i).filter fun a => w.client.refuses a.2).map Prod.fst := by
  cases hk : w.workers[i]? with
  | none => simp only [departures, answers, hk, Ledger.met_nil, List.filter_nil, List.map_nil]
  | some k =>
    cases hover : w.isOver with
    | true =>
      have hnone : w.answers i = [] := by
        simp only [answers, hk, hover, Bool.true_or, if_true]
        split <;> rfl
      rw [hnone]
      simp only [departures, hk, hover, if_true]
      rw [Ledger.met_all, if_neg (by decide)]
      rfl
    | false =>
      cases hphase : k.phase with
      | idle | stopped | broken =>
        simp only [departures, answers, hk, hover, hphase, Bool.false_eq_true, if_false,
          Ledger.met_nil, List.filter_nil, List.map_nil]
      | writing batch call next =>
        have hnone : w.answers i = [] := by simp only [answers, hk, hphase]
        rw [hnone, departures_of_writing hk hover hphase]
        split <;> simp [Ledger.met_all]
      | embedding item call =>
        cases hdue : w.isDue k.pending.deadline? with
        | true =>
          have hnone : w.answers i = [] := by
            simp only [answers, hk, hphase, hdue, Bool.or_true, if_true]
          rw [hnone, departures_of_due hk hover hphase hdue]
          rfl
        | false => exact met_failed_of_embedding hk hover hphase hdue

/-! ### What a step brings -/

/-- What a step brings for an entry at hand, before the length of a vector is looked at. -/
def answering (w : World) : Action → List (Item × Except Fault Embedding)
  | .work i => w.answers i
  | .offer _ | .settle _ | .close | .stop | .wait _ => []

/-- The pairs of embeddings that are compared in a step. -/
def comparing (w : World) : Action → List (Embedding × Embedding)
  | .work i => w.compared i
  | .offer _ | .settle _ | .close | .stop | .wait _ => []

theorem answering_eq_nil (w : World) {a : Action} (h : ∀ i, a ≠ .work i) :
    w.answering a = [] := by
  cases a with
  | work i => exact absurd rfl (h i)
  | offer _ | settle _ | close | stop | wait _ => rfl

theorem IsUniform.comparing (hw : w.IsUniform) (a : Action) : ∀ p ∈ w.comparing a,
    p.1.length = w.client.dimension ∧ p.2.length = w.client.dimension := by
  cases a with
  | work i => exact fun p hp => hw.compared hp
  | offer _ | settle _ | close | stop | wait _ => exact nofun

theorem Occurs.metrics (h : w.Occurs v) : v.metrics = w.metrics := by
  cases h <;> rfl

/-- **Every answer that is refused counts as one failure**, and nothing else does. -/
theorem embeddingFailures_of_apply {a : Action} (h : w.apply a = some v) :
    v.metrics.totals.embeddingFailures = w.metrics.totals.embeddingFailures +
      UInt64.ofNat ((w.answering a).countP fun x => w.client.refuses x.2) := by
  obtain ⟨i, k, rfl, hk, hworks⟩ | ⟨hother, hoccurs⟩ := apply_cases h
  · obtain ⟨k', hhandover⟩ := hworks.handover hk
    have htotal := hhandover.totals .failed (by decide)
    rw [met_failed_departures, List.length_map, ← List.countP_eq_length_filter] at htotal
    exact htotal
  · rw [answering_eq_nil w hother, hoccurs.metrics]
    exact (UInt64.add_zero _).symm

end World

end Pipeline

end LogIntake
