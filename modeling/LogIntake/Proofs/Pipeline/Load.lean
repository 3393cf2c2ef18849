import Mathlib.Algebra.BigOperators.Group.List.Basic
import Mathlib.Algebra.Order.BigOperators.Group.List
import LogIntake.Proofs.Call
import LogIntake.Proofs.Pipeline.Punctual

/-!
# The load of a pipeline

Every entry that has entered a queue causes a bounded number of steps: it is taken, each attempt
to embed it takes up to three, and so does each attempt to write the batch that its point comes
into. `World.load` adds these bounds up. Every step of a worker makes the load smaller
(`Works.load_lt`), and so does every step of an offer that waits; only a new entry adds to it. So a
pipeline that takes no more entries comes to its end after a number of steps that is known
beforehand, whoever takes them and in whatever order.

Both kinds of calls must be such that their failures can be counted (`Backoff.IsFinite`).
-/

namespace LogIntake.Pipeline

/-! ### Calls within their budgets -/

/-- How often failed calls are repeated, to embed and to write. -/
structure Budgets where
  embed : Backoff
  write : Backoff

/-- Both kinds of failures can be counted. -/
structure Budgets.Finite (b : Budgets) : Prop where
  embed : b.embed.IsFinite
  write : b.write.IsFinite

/-- Whether a call to embed that is to be gone on with is within its budget. -/
def Next.IsWithin (b : Budgets) : Next → Prop
  | .embed _ call => call.IsWithin b.embed
  | .resume | .finish => True

/-- Whether the calls that a worker makes are within their budgets. -/
def Phase.IsWithin (b : Budgets) : Phase → Prop
  | .embedding _ call => call.IsWithin b.embed
  | .writing _ call next => call.IsWithin b.write ∧ next.IsWithin b
  | .idle | .stopped | .broken => True

/-! ### Bounds -/

variable (b : Budgets)

/-- A bound for a point that waits: at worst it is written in a batch of its own. -/
def pointLoad : Nat :=
  3 * b.write.maxRetries.toNat + 5

/-- A bound for an entry that is being embedded. -/
def handLoad (call : Call Embedding) : Nat :=
  call.stepsLeft b.embed + pointLoad b + 2

/-- A bound for an entry in a queue. -/
def entryLoad : Nat :=
  handLoad b (Call.start b.embed) + 1

/-- A bound for what follows a batch. -/
def Next.load : Next → Nat
  | .resume => 1
  | .embed _ call => handLoad b call
  | .finish => 0

/-- A bound for what a worker is doing. -/
def Phase.load : Phase → Nat
  | .idle => 1
  | .embedding _ call => handLoad b call
  | .writing _ call next => call.stepsLeft b.write + 1 + next.load b
  | .stopped | .broken => 0

/-- A bound for a worker with its points and its queue. -/
def Worker.load (k : Worker) : Nat :=
  k.phase.load b + k.pending.size * pointLoad b + k.queue.length * entryLoad b

/-- A bound for an offer, whose entry may yet enter a queue. -/
def Offer.load (o : Offer) : Nat :=
  if o.isSettled then 0 else entryLoad b + 1

namespace World

/-- The budgets that a pipeline works with. -/
def budgets (w : World) : Budgets :=
  ⟨w.client.retry, w.settings.flushRetry⟩

/-- The calls of all workers are within their budgets. -/
def IsWithin (w : World) : Prop :=
  ∀ k ∈ w.workers, k.phase.IsWithin w.budgets

/-- A bound for the number of steps that are left as long as no entry is offered. -/
def load (w : World) : Nat :=
  (w.workers.map (·.load w.budgets)).sum + (w.offers.map (·.load w.budgets)).sum

end World

/-! ### Workers -/

namespace Worker

variable {b : Budgets} {k : Worker}

theorem phase_load_pos (b : Budgets) (h : k.isGone = false) : 1 ≤ k.phase.load b := by
  cases hphase : k.phase with
  | idle => exact Nat.le_refl 1
  | embedding item call => simp only [Phase.load, handLoad]; omega
  | writing batch call next => simp only [Phase.load]; omega
  | stopped | broken => simp [isGone, hphase] at h

theorem load_leave (b : Budgets) (k : Worker) {p : Phase} (hp : p = .stopped ∨ p = .broken) :
    (k.leave p).load b = 0 := by
  rcases hp with rfl | rfl <;>
    simp [leave, load, Phase.load, Accumulator.size, Accumulator.cleared]

theorem load_proceed (b : Budgets) (k : Worker) (next : Next) : (k.proceed next).load b =
    next.load b + k.pending.size * pointLoad b + k.queue.length * entryLoad b := by
  cases next <;> rfl

/-- Points that are taken out to be written have waited with a higher bound. -/
theorem load_flush_lt (b : Budgets) (k : Worker) (next : Next) (hp : k.pending.isEmpty = false) :
    (k.flush b.write next).load b <
      next.load b + k.pending.size * pointLoad b + k.queue.length * entryLoad b := by
  have hpos : 1 ≤ k.pending.size := by
    have hne : k.pending.pending ≠ [] := by simpa [Accumulator.isEmpty] using hp
    exact List.length_pos_of_ne_nil hne
  have hle : pointLoad b ≤ k.pending.size * pointLoad b := Nat.le_mul_of_pos_left _ hpos
  have hstart : (Call.start b.write : Call Unit).stepsLeft b.write + 1 < pointLoad b := by
    rw [Call.stepsLeft_start, pointLoad]
    omega
  rw [flush_of_some b.write next hp]
  simp only [load, Phase.load, Accumulator.size, Accumulator.cleared, List.length_nil,
    Nat.zero_mul] at hle ⊢
  omega

theorem load_flush_le (b : Budgets) (k : Worker) (next : Next) : (k.flush b.write next).load b ≤
    next.load b + k.pending.size * pointLoad b + k.queue.length * entryLoad b := by
  cases hp : k.pending.isEmpty with
  | true =>
    rw [flush, if_pos hp, load_proceed]
    simp [Accumulator.size, Accumulator.cleared]
  | false => exact Nat.le_of_lt (load_flush_lt b k next hp)

/-- The entry at hand joins the points that wait, with a lower bound than before. -/
theorem load_collect (b : Budgets) (k : Worker) (d : Deduplicator) (item : Item) (x : Embedding)
    (now : Nat) : (k.collect d item x now).load b =
      1 + (k.pending.size * pointLoad b + pointLoad b) + k.queue.length * entryLoad b := by
  have hsize : (k.collect d item x now).pending.size = k.pending.size + 1 := by
    simp [collect, Accumulator.push, Accumulator.size]
  rw [load, hsize, Nat.succ_mul]
  rfl

theorem isWithin_proceed {next : Next} (k : Worker) (h : next.IsWithin b) :
    (k.proceed next).phase.IsWithin b := by
  cases next with
  | embed item call => exact h
  | resume | finish => trivial

theorem isWithin_flush {next : Next} (k : Worker) (h : next.IsWithin b) :
    (k.flush b.write next).phase.IsWithin b := by
  rw [flush]
  split
  · exact isWithin_proceed _ h
  · exact ⟨Call.isWithin_start _, h⟩

end Worker

namespace World

variable {w v : World} {i : Nat} {k : Worker}

/-- An embedding that goes on stays within its budget, and less of it is left. -/
private theorem load_embedding (hb : w.budgets.Finite) {item : Item} {call call' : Call Embedding}
    (hphase : k.phase = .embedding item call) (hk : k.phase.IsWithin w.budgets)
    (hstep : w.embedProgress item call = .began call' ∨
      w.embedProgress item call = .moved call') :
    (Phase.embedding item call').IsWithin w.budgets ∧
      { k with phase := .embedding item call' }.load w.budgets < k.load w.budgets := by
  rw [hphase] at hk
  obtain ⟨hwithin, hlt⟩ := (Client.step_goes rfl hstep).stepsLeft_lt hk hstep
  have hlt : call'.stepsLeft w.budgets.embed < call.stepsLeft w.budgets.embed := hlt hb.embed
  refine ⟨hwithin, ?_⟩
  simp only [Worker.load, Phase.load, handLoad, hphase]
  omega

/-- A write that goes on stays within its budget, and less of it is left. -/
private theorem load_writing (hb : w.budgets.Finite) {batch : Batch} {call call' : Call Unit}
    {next : Next} (hphase : k.phase = .writing batch call next)
    (hk : k.phase.IsWithin w.budgets)
    (hstep : w.writeProgress call = .began call' ∨ w.writeProgress call = .moved call') :
    (Phase.writing batch call' next).IsWithin w.budgets ∧
      { k with phase := .writing batch call' next }.load w.budgets < k.load w.budgets := by
  rw [hphase] at hk
  obtain ⟨hwithin, hlt⟩ := (goes_of_writeProgress rfl).stepsLeft_lt hk.1 hstep
  have hlt : call'.stepsLeft w.budgets.write < call.stepsLeft w.budgets.write := hlt hb.write
  refine ⟨⟨hwithin, hk.2⟩, ?_⟩
  simp only [Worker.load, Phase.load, hphase]
  omega

/-- A batch that was written or dropped leaves less to do. -/
private theorem load_proceed {batch : Batch} {call : Call Unit} {next : Next}
    (hphase : k.phase = .writing batch call next) (hk : k.phase.IsWithin w.budgets)
    (d : Deduplicator) : ({ k with dedup := d }.proceed next).phase.IsWithin w.budgets ∧
      ({ k with dedup := d }.proceed next).load w.budgets < k.load w.budgets := by
  rw [hphase] at hk
  refine ⟨Worker.isWithin_proceed _ hk.2, ?_⟩
  rw [Worker.load_proceed]
  simp only [Worker.load, Phase.load, hphase]
  omega

/-- A worker that takes a step has less to do after it. -/
theorem Works.worker_load (h : w.Works i k v) (hb : w.budgets.Finite)
    (hk : k.phase.IsWithin w.budgets) (htidy : k.Tidy w.settings w.now) :
    ∃ k', v.workers = w.workers.set i k' ∧ k'.phase.IsWithin w.budgets ∧
      k'.load w.budgets < k.load w.budgets := by
  have hpos := Worker.phase_load_pos w.budgets h.isGone
  have hentry : entryLoad w.budgets = handLoad w.budgets w.client.start + 1 := rfl
  cases h
  case leaves readings dedup hgone hover =>
    refine ⟨_, rfl, trivial, ?_⟩
    rw [Worker.load_leave _ _ (.inl rfl), Worker.load]
    omega
  case breaks hover hstep =>
    refine ⟨_, rfl, trivial, ?_⟩
    rw [Worker.load_leave _ _ (.inr rfl), Worker.load]
    omega
  case flushes hphase hover hdue =>
    have hlt := Worker.load_flush_lt w.budgets k .resume (htidy.isEmpty_of_isDue hdue)
    refine ⟨_, rfl, Worker.isWithin_flush k trivial, Nat.lt_of_lt_of_eq hlt ?_⟩
    rw [Worker.load, hphase]
    rfl
  case interrupts item call hphase hover hdue =>
    have hlt := Worker.load_flush_lt w.budgets k (.embed item call) (htidy.isEmpty_of_isDue hdue)
    rw [hphase] at hk
    refine ⟨_, rfl, Worker.isWithin_flush k hk, Nat.lt_of_lt_of_eq hlt ?_⟩
    rw [Worker.load, hphase]
    rfl
  case drains hphase hover hdue hqueue hclosed hnone =>
    have hle := Worker.load_flush_le w.budgets k .finish
    refine ⟨_, rfl, Worker.isWithin_flush k trivial, Nat.lt_of_le_of_lt hle ?_⟩
    rw [Worker.load]
    simp only [Next.load]
    omega
  case takes item queue hphase hover hdue hqueue =>
    refine ⟨_, rfl, Call.isWithin_start _, ?_⟩
    simp only [Worker.load, Phase.load, hphase, hqueue, List.length_cons, Nat.succ_mul]
    omega
  case asks item call call' hphase hover hdue hstep =>
    exact ⟨_, rfl, load_embedding hb hphase hk (.inl hstep)⟩
  case rests item call call' hphase hover hdue hstep =>
    exact ⟨_, rfl, load_embedding hb hphase hk (.inr hstep)⟩
  case fails hphase _ _ _ | suppresses hphase _ _ _ _ =>
    refine ⟨_, rfl, trivial, ?_⟩
    simp only [Worker.load, Phase.load, handLoad, hphase]
    omega
  case collects item call x hphase hover hdue hstep hdecision hroom =>
    refine ⟨_, rfl, trivial, ?_⟩
    rw [Worker.load_collect, Worker.load, hphase, Phase.load, handLoad]
    omega
  case fills item call x hphase hover hdue hstep hdecision hfull =>
    have hle := Worker.load_flush_le w.budgets
      (k.collect (w.considered k item x).2 item x w.now) .resume
    have hcollect := Worker.load_collect w.budgets k (w.considered k item x).2 item x w.now
    refine ⟨_, rfl, Worker.isWithin_flush _ trivial,
      Nat.lt_of_le_of_lt (Nat.le_trans hle (Nat.le_of_eq hcollect)) ?_⟩
    rw [Worker.load, hphase, Phase.load, handLoad]
    omega
  case writes batch call call' next hphase hover hstep =>
    exact ⟨_, rfl, load_writing hb hphase hk (.inl hstep)⟩
  case pauses batch call call' next hphase hover hstep =>
    exact ⟨_, rfl, load_writing hb hphase hk (.inr hstep)⟩
  case stores batch call next hphase hover hstep =>
    exact ⟨_, rfl, load_proceed hphase hk _⟩
  case drops batch call next f hphase hover hstep =>
    exact ⟨_, rfl, load_proceed hphase hk _⟩

/-! ### Worlds -/

theorem budgets_of_fixed (h : Fixed w v) : v.budgets = w.budgets := by
  rw [budgets, h.settings, h.client, budgets]

/-- A worker or an offer in a list is replaced by another one. -/
private theorem sum_map_set {α : Type} (f : α → Nat) {l : List α} {i : Nat} {a : α}
    (h : l[i]? = some a) (a' : α) : ((l.set i a').map f).sum + f a = (l.map f).sum + f a' := by
  induction l generalizing i with
  | nil => simp at h
  | cons b l ih =>
    cases i with
    | zero =>
      cases h
      simp only [List.set_cons_zero, List.map_cons, List.sum_cons]
      omega
    | succ i =>
      have hrest := ih (i := i) h
      simp only [List.set_cons_succ, List.map_cons, List.sum_cons]
      omega

/-- Offers do not get heavier as long as no new one is made. -/
private theorem load_le_of_becomes (b : Budgets) {low high : Nat} {l l' : List Offer}
    (h : List.Forall₂ (Offer.Becomes low high) l l') :
    (l'.map (·.load b)).sum ≤ (l.map (·.load b)).sum := by
  induction h with
  | nil => exact Nat.le_refl _
  | cons hbecomes _ ih =>
    refine Nat.add_le_add ?_ ih
    cases hs : Offer.isSettled _ with
    | true => rw [hbecomes.settled hs]
    | false => simp only [Offer.load, hs]; split <;> simp

/-- **A step of a worker makes the load smaller.** -/
theorem Works.load_lt (h : w.Works i k v) (hk : w.workers[i]? = some k) (hb : w.budgets.Finite)
    (hw : w.IsWithin) (htidy : w.Tidy) : v.IsWithin ∧ v.load < w.load := by
  have hmem : k ∈ w.workers := List.mem_of_getElem? hk
  obtain ⟨k', hworkers, hwithin, hlt⟩ := h.worker_load hb (hw k hmem) (htidy k hmem)
  have hbudgets : v.budgets = w.budgets :=
    budgets_of_fixed ⟨h.frame.settings, h.frame.client, h.frame.backend⟩
  refine ⟨fun l hl => ?_, ?_⟩
  · rw [hbudgets]
    rw [hworkers] at hl
    rcases List.mem_or_eq_of_mem_set hl with hl | rfl
    · exact hw l hl
    · exact hwithin
  · have hoffers := load_le_of_becomes w.budgets (h.offers w.entered)
    have hsum := sum_map_set (·.load w.budgets) hk k'
    rw [load, load, hbudgets, hworkers]
    omega

private theorem Occurs.isWithin (h : w.Occurs v) (hbudgets : v.budgets = w.budgets)
    (hw : w.IsWithin) : v.IsWithin := by
  intro l hl
  obtain ⟨k, hk, queue, rfl⟩ := h.workers.2 l hl
  rw [hbudgets]
  exact hw k hk

/-- An offer that goes on by itself was heavier than the entry that may enter a queue with it. -/
theorem load_lt_of_settle {t : Nat} (h : w.settle t = some v) : v.load < w.load := by
  obtain ⟨o, till, ho, ⟨k, hstate, hk, rfl⟩ | ⟨hstate, -, rfl⟩⟩ := settle_cases h
  · have hoffers := sum_map_set (·.load w.budgets) ho { o with state := .accepted w.entered }
    have hworkers := sum_map_set (·.load w.budgets) hk
      { k with queue := k.queue ++ [⟨w.entered, o.entry⟩] }
    have hbefore : o.load w.budgets = entryLoad w.budgets + 1 := by
      simp [Offer.load, Offer.isSettled, hstate]
    have hafter : { o with state := .accepted w.entered }.load w.budgets = 0 := rfl
    have hentered : ({ k with queue := k.queue ++ [⟨w.entered, o.entry⟩] } : Worker).load
        w.budgets = k.load w.budgets + entryLoad w.budgets := by
      simp only [Worker.load, List.length_append, List.length_singleton, Nat.succ_mul]
      omega
    change ((w.workers.set o.worker _).map (·.load w.budgets)).sum +
      ((w.offers.set t _).map (·.load w.budgets)).sum < w.load
    rw [load]
    omega
  · have hoffers := sum_map_set (·.load w.budgets) ho { o with state := .refused .queueFull }
    have hbefore : o.load w.budgets = entryLoad w.budgets + 1 := by
      simp [Offer.load, Offer.isSettled, hstate]
    have hafter : { o with state := .refused .queueFull }.load w.budgets = 0 := rfl
    change (w.workers.map (·.load w.budgets)).sum +
      ((w.offers.set t _).map (·.load w.budgets)).sum < w.load
    rw [load]
    omega

/-- A pipeline that takes no more entries refuses an offer, and nothing else happens. -/
theorem offer_of_closed (hclosed : w.accepting = false) (e : Entry) : w.offer e = { w with
    offers := w.offers ++ [⟨e, workerOf e.source w.workers.length, .refused .closed⟩] } := by
  rw [World.offer]
  split
  · rfl
  · rw [if_pos (by simp [hclosed])]

theorem IsWithin.apply {a : Action} (hw : w.IsWithin) (h : w.apply a = some v)
    (hb : w.budgets.Finite) (htidy : w.Tidy) : v.IsWithin := by
  obtain ⟨i, k, -, hk, hworks⟩ | ⟨-, hoccurs⟩ := apply_cases h
  · exact (hworks.load_lt hk hb hw htidy).1
  · exact hoccurs.isWithin (budgets_of_fixed (fixed_of_apply h)) hw

theorem isWithin_start (s : Settings) (c : Client) (b : Backend) : (start s c b).IsWithin := by
  intro k hk
  rw [List.eq_of_mem_replicate hk]
  trivial

/-- **The load of a pipeline that takes no more entries** never grows, and gets smaller with every
step of a worker or of an offer that waits. -/
theorem load_of_apply {a : Action} (h : w.apply a = some v) (hclosed : w.accepting = false)
    (hb : w.budgets.Finite) (hw : w.IsWithin) (htidy : w.Tidy) : v.load ≤ w.load ∧
      ((∃ i, a = .work i) ∨ (∃ t, a = .settle t) → v.load < w.load) := by
  cases a with
  | work i =>
    obtain ⟨k, hk, hworks⟩ := works_of_work h
    have hlt := (hworks.load_lt hk hb hw htidy).2
    exact ⟨Nat.le_of_lt hlt, fun _ => hlt⟩
  | settle t =>
    have hlt := load_lt_of_settle h
    exact ⟨Nat.le_of_lt hlt, fun _ => hlt⟩
  | offer e =>
    obtain rfl : w.offer e = v := Option.some.inj h
    refine ⟨Nat.le_of_eq ?_, by simp⟩
    -- The offer that is made is settled, so it weighs nothing.
    rw [offer_of_closed hclosed, load, load, List.map_append, List.sum_append]
    rfl
  | close =>
    cases h
    exact ⟨Nat.le_refl _, by simp⟩
  | stop =>
    obtain ⟨-, rfl⟩ := apply_stop h
    exact ⟨Nat.le_refl _, by simp⟩
  | wait till =>
    obtain ⟨-, rfl⟩ := apply_wait h
    exact ⟨Nat.le_refl _, by simp⟩

end World

/-- Calls stay within their budgets in all runs. -/
theorem Reaches.isWithin {w v : World} (h : Reaches w v) (hb : w.budgets.Finite)
    (hw : w.IsWithin) (htidy : w.Tidy) : v.IsWithin := by
  induction h with
  | refl => exact hw
  | step a h hstep ih =>
    obtain ⟨r⟩ := h.run
    refine ih.apply hstep ?_ (h.tidy htidy)
    rw [World.budgets_of_fixed r.fixed]
    exact hb

end LogIntake.Pipeline
