import Mathlib.Data.List.Forall2
import LogIntake.Proofs.Pipeline.Ledger

/-!
# What producers do, and what becomes of offers

`World.Occurs` lists what can happen in a world apart from the steps of workers, with the world
after it; `World.apply_cases` says that together with `World.Works` the list is complete.

An entry enters a queue when its offer is **accepted**, at once or after a wait.
`Offer.Becomes` says how an offer can go on: one that has its answer stays as it is, and one that
is accepted is given a number that is new. Every step respects that (`World.Works.offers`,
`World.Occurs.offers`). `World.Orderly` collects what holds of offers, numbers and closing workers
in every world that can come about, and `Orderly.apply` keeps it.
-/

namespace LogIntake.Pipeline

namespace Offer

/-- The entry of an offer that was accepted, under its number. -/
def item? (o : Offer) : Option Item :=
  match o.state with
  | .accepted id => some ⟨id, o.entry⟩
  | .waiting _ _ | .refused _ => none

/-- Whether an offer has its answer. -/
def isSettled (o : Offer) : Bool :=
  match o.state with
  | .waiting _ _ => false
  | .accepted _ | .refused _ => true

/-- What an offer can become while the numbers from `low` on and below `high` are given. -/
structure Becomes (low high : Nat) (o o' : Offer) : Prop where
  entry : o'.entry = o.entry
  worker : o'.worker = o.worker
  settled : o.isSettled = true → o' = o
  fresh : ∀ n, o'.state = .accepted n → o.state = .accepted n ∨ low ≤ n ∧ n < high

namespace Becomes

variable {low middle high : Nat} {o o' o'' : Offer}

theorem refl (low high : Nat) (o : Offer) : o.Becomes low high o :=
  ⟨rfl, rfl, fun _ => rfl, fun _ h => .inl h⟩

theorem trans (h : o.Becomes low middle o') (h' : o'.Becomes middle high o'')
    (hlow : low ≤ middle) (hhigh : middle ≤ high) : o.Becomes low high o'' where
  entry := h'.entry.trans h.entry
  worker := h'.worker.trans h.worker
  settled hs := by
    obtain rfl := h.settled hs
    exact h'.settled hs
  fresh n hn := by
    rcases h'.fresh n hn with hn | hn
    · rcases h.fresh n hn with hn | hn
      · exact .inl hn
      · exact .inr ⟨hn.1, by omega⟩
    · exact .inr ⟨by omega, hn.2⟩

/-- A waiting offer that goes on waiting, or is refused. -/
theorem ofNotAccepted {s : OfferState} (ho : o.isSettled = false) (hs : ∀ n, s ≠ .accepted n) :
    o.Becomes low high { o with state := s } :=
  ⟨rfl, rfl, fun h => by simp [ho] at h, fun n h => absurd h (hs n)⟩

/-- While no number is given nothing is accepted. -/
theorem item?_eq (h : o.Becomes low low o') : o'.item? = o.item? := by
  cases hs : o.isSettled with
  | true => rw [h.settled hs]
  | false =>
    have hnone : o.item? = none := by
      cases hstate : o.state <;> simp_all [isSettled, item?]
    rw [hnone]
    cases hstate : o'.state with
    | accepted n =>
      rcases h.fresh n hstate with hn | hn
      · simp [isSettled, hn] at hs
      · omega
    | waiting till granted => simp [item?, hstate]
    | refused f => simp [item?, hstate]

theorem isWaitingFor {i : Nat} (h : o.Becomes low high o')
    (hw : World.isWaitingFor i o' = true) : World.isWaitingFor i o = true := by
  cases hs : o.isSettled with
  | true => rwa [← h.settled hs]
  | false =>
    simp only [World.isWaitingFor, Bool.and_eq_true, beq_iff_eq] at hw ⊢
    refine ⟨h.worker ▸ hw.1, ?_⟩
    cases hstate : o.state <;> simp_all [isSettled]

end Becomes

theorem isSettled_of_isWaitingFor {i : Nat} {o : Offer} (h : World.isWaitingFor i o = true) :
    o.isSettled = false := by
  cases hs : o.state <;> simp_all [World.isWaitingFor, isSettled]

end Offer

/-- Whether a worker takes no more entries, or will take none when its last batch is written. -/
def Worker.isClosing (k : Worker) : Bool :=
  match k.phase with
  | .writing _ _ .finish | .stopped | .broken => true
  | .idle | .embedding _ _ | .writing _ _ _ => false

theorem Worker.isGone_of_isClosing {k : Worker} (h : k.isClosing = false) : k.isGone = false := by
  cases hphase : k.phase <;> simp_all [isGone, isClosing]

namespace World

/-- The entries that have entered a queue. -/
def accepted (w : World) : List Item :=
  w.offers.filterMap Offer.item?

/-! ### Lists of offers -/

section Lists

variable {low high n : Nat} {l l' : List Offer}

/-- An offer of an earlier list is found at the same place of a later one. -/
theorem getElem?_of_becomes (h : List.Forall₂ (Offer.Becomes low high) l l') {t : Nat}
    {o : Offer} (ho : l[t]? = some o) :
    ∃ o', l'[t]? = some o' ∧ o.Becomes low high o' := by
  induction h generalizing t with
  | nil => simp at ho
  | cons hp _ ih =>
    cases t with
    | zero =>
      cases ho
      exact ⟨_, rfl, hp⟩
    | succ t => exact ih ho

theorem mem_of_becomes (h : List.Forall₂ (Offer.Becomes low high) l l') {o' : Offer}
    (ho : o' ∈ l') : ∃ o ∈ l, o.Becomes low high o' := by
  induction h with
  | nil => simp at ho
  | cons hp _ ih =>
    rcases List.mem_cons.mp ho with rfl | ho
    · exact ⟨_, List.mem_cons_self, hp⟩
    · obtain ⟨o, ho, hb⟩ := ih ho
      exact ⟨o, List.mem_cons_of_mem _ ho, hb⟩

section

variable {R : Offer → Offer → Prop} (hrefl : ∀ o, R o o)
include hrefl

/-- An offer in a list is replaced. -/
theorem forall₂_set {t : Nat} {o o' : Offer} (ho : l[t]? = some o) (h : R o o') :
    List.Forall₂ R l (l.set t o') := by
  induction l generalizing t with
  | nil => simp at ho
  | cons p l ih =>
    cases t with
    | zero =>
      cases ho
      exact .cons h (List.forall₂_same.mpr fun o _ => hrefl o)
    | succ t => exact .cons (hrefl _) (ih ho)

/-- The offers that wait for a worker are refused. -/
theorem forall₂_refuseWaiting {i : Nat}
    (h : ∀ o, isWaitingFor i o = true → R o { o with state := .refused .closed }) :
    List.Forall₂ R l (refuseWaiting i l) := by
  refine List.forall₂_map_right_iff.mpr (List.forall₂_same.mpr fun o _ => ?_)
  split
  · rename_i hw
    exact h o hw
  · exact hrefl o

/-- One offer that waits without room is granted some. -/
theorem forall₂_grant (i : Nat) (h : ∀ o till, o.state = .waiting till false →
    R o { o with state := .waiting till true }) : List.Forall₂ R l (grant i l) := by
  have hfirst : ∀ l : List Offer, List.Forall₂ R l (grantFirst i l) := by
    intro l
    induction l with
    | nil => exact .nil
    | cons o rest ih =>
      rw [grantFirst]
      split
      · rename_i till hstate
        split
        · exact .cons (h o till hstate) (List.forall₂_same.mpr fun o _ => hrefl o)
        · exact .cons (hrefl o) ih
      · exact .cons (hrefl o) ih
  rw [grant]
  split
  · exact hfirst l
  · exact List.forall₂_same.mpr fun o _ => hrefl o

end

theorem becomes_refl (low high : Nat) (l : List Offer) :
    List.Forall₂ (Offer.Becomes low high) l l :=
  List.forall₂_same.mpr fun o _ => .refl low high o

theorem becomes_set {t : Nat} {o o' : Offer} (ho : l[t]? = some o)
    (h : o.Becomes low high o') : List.Forall₂ (Offer.Becomes low high) l (l.set t o') :=
  forall₂_set (.refl low high) ho h

theorem becomes_refuseWaiting (i n : Nat) (l : List Offer) :
    List.Forall₂ (Offer.Becomes n n) l (refuseWaiting i l) :=
  forall₂_refuseWaiting (.refl n n) fun _ hw =>
    .ofNotAccepted (Offer.isSettled_of_isWaitingFor hw) (by simp)

theorem becomes_grant (i n : Nat) (l : List Offer) :
    List.Forall₂ (Offer.Becomes n n) l (grant i l) :=
  -- The offer that is granted room goes on waiting.
  forall₂_grant (.refl n n) i fun _ _ hstate =>
    .ofNotAccepted (by simp [Offer.isSettled, hstate]) (by simp)

theorem filterMap_item?_of_becomes (h : List.Forall₂ (Offer.Becomes n n) l l') :
    l'.filterMap Offer.item? = l.filterMap Offer.item? := by
  induction h with
  | nil => rfl
  | cons hp _ ih => rw [List.filterMap_cons, List.filterMap_cons, hp.item?_eq, ih]

theorem any_isWaitingFor_of_becomes {i : Nat}
    (h : List.Forall₂ (Offer.Becomes low high) l l') (hl : l.any (isWaitingFor i) = false) :
    l'.any (isWaitingFor i) = false := by
  rw [List.any_eq_false] at hl ⊢
  intro o' ho' hw
  obtain ⟨o, ho, hb⟩ := mem_of_becomes h ho'
  exact hl o ho (hb.isWaitingFor hw)

theorem any_isWaitingFor_refuseWaiting (i : Nat) (l : List Offer) :
    (refuseWaiting i l).any (isWaitingFor i) = false := by
  rw [refuseWaiting, List.any_map, List.any_eq_false]
  intro o _
  simp only [Function.comp]
  split
  · simp [isWaitingFor]
  · assumption

/-- An offer that is accepted adds one entry to those that have entered a queue. -/
theorem filterMap_item?_set {t : Nat} {o o' : Offer} {x : Item} (ho : l[t]? = some o)
    (hnone : o.item? = none) (hsome : o'.item? = some x) :
    ((l.set t o').filterMap Offer.item?).Perm (x :: l.filterMap Offer.item?) := by
  induction l generalizing t with
  | nil => simp at ho
  | cons p l ih =>
    cases t with
    | zero =>
      cases ho
      simp [hnone, hsome]
    | succ t =>
      rw [List.set_cons_succ, List.filterMap_cons, List.filterMap_cons]
      cases hp : p.item? with
      | none => exact ih ho
      | some y => exact ((ih ho).cons y).trans (.swap x y _)

end Lists

/-! ### What happens apart from the steps of workers -/

/-- What can happen in a world while no worker does anything. -/
inductive Occurs (w : World) : World → Prop where
  /-- An offer is refused, as the pipeline or the worker takes no more entries. -/
  | turnsAway (e : Entry) :
    Occurs w { w with
      offers := w.offers ++ [⟨e, workerOf e.source w.workers.length, .refused .closed⟩] }
  /-- An offer is accepted at once. -/
  | admits (e : Entry) {k : Worker}
      (hk : w.workers[workerOf e.source w.workers.length]? = some k)
      (haccepting : w.accepting = true) (hgone : k.isGone = false)
      (hroom : w.hasRoom (workerOf e.source w.workers.length) k = true) :
    Occurs w { w.enter (workerOf e.source w.workers.length) k e with
      offers :=
        w.offers ++ [⟨e, workerOf e.source w.workers.length, .accepted w.entered⟩] }
  /-- An offer has to wait. -/
  | delays (e : Entry) {k : Worker}
      (hk : w.workers[workerOf e.source w.workers.length]? = some k)
      (haccepting : w.accepting = true) (hgone : k.isGone = false)
      (hroom : w.hasRoom (workerOf e.source w.workers.length) k = false) :
    Occurs w { w with
      offers := w.offers ++ [⟨e, workerOf e.source w.workers.length,
        .waiting (w.now + w.settings.enqueueTimeout) false⟩] }
  /-- An offer uses the room it was granted. -/
  | letsIn {t till : Nat} {o : Offer} {k : Worker} (ho : w.offers[t]? = some o)
      (hstate : o.state = .waiting till true) (hk : w.workers[o.worker]? = some k) :
    Occurs w { w.enter o.worker k o.entry with
      offers := w.offers.set t { o with state := .accepted w.entered } }
  /-- An offer has waited long enough. -/
  | givesUp {t till : Nat} {o : Offer} (ho : w.offers[t]? = some o)
      (hstate : o.state = .waiting till false) (hdue : till ≤ w.now) :
    Occurs w { w with offers := w.offers.set t { o with state := .refused .queueFull } }
  | closes : Occurs w w.close
  | stops (hdeadline : w.deadline = none) : Occurs w w.stop
  | passes {till : Nat} (hlater : w.now < till) : Occurs w { w with now := till }

variable {w v : World} {i : Nat} {k : Worker}

private theorem occurs_offer (w : World) (e : Entry) : w.Occurs (w.offer e) := by
  unfold World.offer
  dsimp only
  split
  · exact .turnsAway e
  · rename_i k hk
    split
    · exact .turnsAway e
    · rename_i hopen
      simp only [Bool.or_eq_true, Bool.not_eq_true', not_or, Bool.not_eq_false,
        Bool.not_eq_true] at hopen
      split
      · rename_i hroom
        exact .admits e hk hopen.1 hopen.2 hroom
      · rename_i hroom
        exact .delays e hk hopen.1 hopen.2 (by simpa using hroom)

/-- An offer that goes on by itself uses the room it was granted, or gives up. -/
theorem settle_cases {t : Nat} (h : w.settle t = some v) :
    ∃ o till, w.offers[t]? = some o ∧
      ((∃ k, o.state = .waiting till true ∧ w.workers[o.worker]? = some k ∧
          v = { w.enter o.worker k o.entry with
            offers := w.offers.set t { o with state := .accepted w.entered } }) ∨
        (o.state = .waiting till false ∧ till ≤ w.now ∧
          v = { w with offers := w.offers.set t { o with state := .refused .queueFull } })) := by
  simp only [settle, Option.bind_eq_bind, Option.bind_eq_some_iff] at h
  obtain ⟨o, ho, h⟩ := h
  split at h
  · rename_i till granted hstate
    cases granted with
    | true =>
      simp only [if_true, Option.bind_eq_some_iff] at h
      obtain ⟨k, hk, h⟩ := h
      cases h
      exact ⟨o, till, ho, .inl ⟨k, hstate, hk, rfl⟩⟩
    | false =>
      simp only [Bool.false_eq_true, if_false] at h
      split at h
      · rename_i hdue
        cases h
        exact ⟨o, till, ho, .inr ⟨hstate, hdue, rfl⟩⟩
      · cases h
  · cases h

private theorem occurs_of_settle {t : Nat} (h : w.settle t = some v) : w.Occurs v := by
  obtain ⟨o, till, ho, ⟨k, hstate, hk, rfl⟩ | ⟨hstate, hdue, rfl⟩⟩ := settle_cases h
  · exact .letsIn ho hstate hk
  · exact .givesUp ho hstate hdue

theorem apply_stop (h : w.apply .stop = some v) : w.deadline = none ∧ v = w.stop := by
  simp only [apply] at h
  split at h
  · cases h
  · rename_i hdeadline
    exact ⟨by simpa using hdeadline, (Option.some.inj h).symm⟩

theorem apply_wait {till : Nat} (h : w.apply (.wait till) = some v) :
    w.now < till ∧ v = { w with now := till } := by
  simp only [apply] at h
  split at h
  · rename_i hlater
    exact ⟨hlater, (Option.some.inj h).symm⟩
  · cases h

/-- **Every step is one of a worker, or one that `Occurs` lists.** -/
theorem apply_cases {a : Action} (h : w.apply a = some v) :
    (∃ i k, a = .work i ∧ w.workers[i]? = some k ∧ w.Works i k v) ∨
      ((∀ i, a ≠ .work i) ∧ w.Occurs v) := by
  cases a with
  | work i =>
    obtain ⟨k, hk, hworks⟩ := works_of_work h
    exact .inl ⟨i, k, rfl, hk, hworks⟩
  | offer e =>
    cases h
    exact .inr ⟨by simp, occurs_offer w e⟩
  | settle t => exact .inr ⟨by simp, occurs_of_settle h⟩
  | close =>
    cases h
    exact .inr ⟨by simp, .closes⟩
  | stop =>
    obtain ⟨hdeadline, rfl⟩ := apply_stop h
    exact .inr ⟨by simp, .stops hdeadline⟩
  | wait till =>
    obtain ⟨hlater, rfl⟩ := apply_wait h
    exact .inr ⟨by simp, .passes hlater⟩

/-! ### What steps leave as it is -/

/-- What a step of a worker leaves as it is. -/
structure Frame (w v : World) : Prop where
  settings : v.settings = w.settings
  client : v.client = w.client
  backend : v.backend = w.backend
  now : v.now = w.now
  entered : v.entered = w.entered
  accepting : v.accepting = w.accepting
  deadline : v.deadline = w.deadline

theorem Works.frame (h : w.Works i k v) : Frame w v := by
  cases h <;> exact ⟨rfl, rfl, rfl, rfl, rfl, rfl, rfl⟩

theorem Works.offers (h : w.Works i k v) (n : Nat) :
    List.Forall₂ (Offer.Becomes n n) w.offers v.offers := by
  cases h
  case leaves => exact becomes_refuseWaiting i n w.offers
  case breaks => exact becomes_refuseWaiting i n w.offers
  case takes => exact becomes_grant i n w.offers
  all_goals exact becomes_refl n n w.offers

theorem Works.accepted (h : w.Works i k v) : v.accepted = w.accepted :=
  filterMap_item?_of_becomes (h.offers w.entered)

/-- An entry arrives in the queue of a worker. -/
structure Arrives (w v : World) (i : Nat) (k : Worker) (e : Entry) : Prop where
  home : i = workerOf e.source w.workers.length
  worker : w.workers[i]? = some k
  closing : k.isClosing = false
  workers : v.workers = w.workers.set i { k with queue := k.queue ++ [⟨w.entered, e⟩] }
  accepted : v.accepted.Perm (⟨w.entered, e⟩ :: w.accepted)
  entered : v.entered = w.entered + 1
  metrics : v.metrics = w.metrics
  asked : v.asked = w.asked
  writes : v.writes = w.writes

/-- Nothing happens that concerns an entry. -/
structure Still (w v : World) : Prop where
  workers : v.workers = w.workers
  accepted : v.accepted = w.accepted
  entered : v.entered = w.entered
  metrics : v.metrics = w.metrics
  asked : v.asked = w.asked
  writes : v.writes = w.writes

/-! ### Order among offers, numbers and workers -/

/-- What holds of a worker that takes no more entries. -/
structure Closed (w : World) (i : Nat) (k : Worker) : Prop where
  queue : k.queue = []
  pending : k.pending.pending = []
  offers : w.offers.any (isWaitingFor i) = false
  accepting : k.isGone = false → w.accepting = false

/-- Offers go to the worker of their source, the numbers of the entries that have entered a queue
are those that were given, and workers that close hold and expect nothing more. -/
structure Orderly (w : World) : Prop where
  routed : ∀ o ∈ w.offers, o.worker = workerOf o.entry.source w.workers.length
  numbered : (w.accepted.map Item.id).Perm (List.range w.entered)
  closing : ∀ i k, w.workers[i]? = some k → k.isClosing = true → w.Closed i k

theorem orderly_start (s : Settings) (c : Client) (b : Backend) : (start s c b).Orderly where
  routed := by simp [start]
  numbered := by simp [start, accepted]
  closing i k hk hclosing := by
    simp only [start, List.getElem?_replicate] at hk
    split at hk
    · cases hk
      cases hclosing
    · cases hk

/-- What happens apart from the steps of workers brings at most one entry. -/
theorem Occurs.arrives_or_still (h : w.Occurs v) (hw : w.Orderly) :
    (∃ i k e, w.Arrives v i k e) ∨ w.Still v := by
  cases h with
  | turnsAway e | delays e => exact .inr ⟨rfl, by simp [accepted, Offer.item?], rfl, rfl, rfl, rfl⟩
  | @admits e k hk haccepting hgone hroom =>
    refine .inl ⟨_, _, e, rfl, hk, ?_, rfl, ?_, rfl, rfl, rfl, rfl⟩
    · by_contra hclosing
      have hclosed := (hw.closing _ k hk (by simpa using hclosing)).accepting hgone
      rw [haccepting] at hclosed
      cases hclosed
    · rw [accepted, List.filterMap_append]
      exact List.perm_append_singleton _ _
  | @letsIn t till o k ho hstate hk =>
    refine .inl ⟨_, _, o.entry, ?_, hk, ?_, rfl, ?_, rfl, rfl, rfl, rfl⟩
    · exact hw.routed o (List.mem_of_getElem? ho)
    · by_contra hclosing
      have hnone := (hw.closing _ k hk (by simpa using hclosing)).offers
      rw [List.any_eq_false] at hnone
      exact hnone o (List.mem_of_getElem? ho) (by simp [isWaitingFor, hstate])
    · exact filterMap_item?_set ho (by simp [Offer.item?, hstate]) (by simp [Offer.item?])
  | @givesUp t till o ho hstate hdue =>
    refine .inr ⟨rfl, ?_, rfl, rfl, rfl, rfl⟩
    refine filterMap_item?_of_becomes (n := 0) (becomes_set ho (.ofNotAccepted ?_ (by simp)))
    simp [Offer.isSettled, hstate]
  | closes | stops | passes => exact .inr ⟨rfl, rfl, rfl, rfl, rfl, rfl⟩

/-- An offer that is there already can only become what `Offer.Becomes` allows. -/
theorem Occurs.offers (h : w.Occurs v) : ∃ old new, v.offers = old ++ new ∧
    List.Forall₂ (Offer.Becomes w.entered v.entered) w.offers old ∧
    ∀ o ∈ new, o.worker = workerOf o.entry.source w.workers.length ∧
      (o.isSettled = false → w.accepting = true ∧
        ∃ k, w.workers[o.worker]? = some k ∧ k.isGone = false) := by
  cases h with
  | turnsAway e => exact ⟨_, _, rfl, becomes_refl _ _ _, by simp [Offer.isSettled]⟩
  | admits e hk => exact ⟨_, _, rfl, becomes_refl _ _ _, by simp [Offer.isSettled]⟩
  | delays e hk haccepting hgone hroom =>
    refine ⟨_, _, rfl, becomes_refl _ _ _, fun o ho => ?_⟩
    rw [List.mem_singleton.mp ho]
    exact ⟨rfl, fun _ => ⟨haccepting, _, hk, hgone⟩⟩
  | @letsIn t till o k ho hstate hk =>
    refine ⟨_, [], (List.append_nil _).symm, becomes_set ho ⟨rfl, rfl, ?_, fun n hn => ?_⟩,
      by simp⟩
    · simp [Offer.isSettled, hstate]
    · cases hn
      exact .inr ⟨Nat.le_refl _, Nat.lt_succ_self _⟩
  | @givesUp t till o ho hstate hdue =>
    refine ⟨_, [], (List.append_nil _).symm, becomes_set ho (.ofNotAccepted ?_ (by simp)),
      by simp⟩
    simp [Offer.isSettled, hstate]
  | closes | stops | passes => exact ⟨_, [], (List.append_nil _).symm, becomes_refl _ _ _, by simp⟩

/-! ### Order is kept -/

/-- What stands at the place of a worker that was replaced. -/
theorem getElem?_set_worker (hk : w.workers[i]? = some k) (k' : Worker) :
    (w.workers.set i k')[i]? = some k' :=
  List.getElem?_set_self (List.getElem?_eq_some_iff.mp hk).1

theorem eq_of_getElem?_set (hk : w.workers[i]? = some k) {k' k'' : Worker}
    (h : (w.workers.set i k'')[i]? = some k') : k'' = k' :=
  Option.some.inj ((getElem?_set_worker hk k'').symm.trans h)

theorem isClosing_flush (b : Backoff) (k : Worker) {next : Next} (h : next ≠ .finish) :
    (k.flush b next).isClosing = false := by
  by_cases hp : k.pending.isEmpty
  · cases next <;> simp_all [Worker.flush, Worker.proceed, Worker.isClosing]
  · cases next <;> simp_all [Worker.flush, Worker.isClosing]

/-- A worker closes only when it leaves or breaks, when nothing can come any more, or when it
has been closing already. -/
theorem Works.closed (h : w.Works i k v) (hk : w.workers[i]? = some k)
    (hc : k.isClosing = true → w.Closed i k) {k' : Worker} (hk' : v.workers[i]? = some k')
    (hclosing : k'.isClosing = true) : v.Closed i k' := by
  cases h
  case leaves =>
    obtain rfl := eq_of_getElem?_set hk hk'
    exact ⟨rfl, rfl, any_isWaitingFor_refuseWaiting i _,
      fun hrunning => absurd rfl (Bool.eq_false_iff.mp hrunning)⟩
  case breaks =>
    obtain rfl := eq_of_getElem?_set hk hk'
    exact ⟨rfl, rfl, any_isWaitingFor_refuseWaiting i _,
      fun hrunning => absurd rfl (Bool.eq_false_iff.mp hrunning)⟩
  case drains hphase hover hdue hqueue hclosed hnone =>
    obtain rfl := eq_of_getElem?_set hk hk'
    refine ⟨(Worker.queue_flush _ _ _).trans hqueue, ?_, hnone, fun _ => hclosed⟩
    rw [Worker.pending_flush]
    rfl
  case flushes | interrupts | fills =>
    obtain rfl := eq_of_getElem?_set hk hk'
    rw [isClosing_flush _ _ (by simp)] at hclosing
    cases hclosing
  case writes batch call call' next hphase hover hstep |
      pauses batch call call' next hphase hover hstep =>
    obtain rfl := eq_of_getElem?_set hk hk'
    have hold := hc (by cases next <;> simp_all [Worker.isClosing])
    exact ⟨hold.queue, hold.pending, hold.offers, fun _ => hold.accepting (by
      simp [Worker.isGone, hphase])⟩
  case stores batch call next hphase hover hstep |
      drops batch call next f hphase hover hstep =>
    obtain rfl := eq_of_getElem?_set hk hk'
    cases next with
    | finish =>
      have hold := hc (by simp [Worker.isClosing, hphase])
      exact ⟨hold.queue, hold.pending, hold.offers,
        fun hrunning => absurd rfl (Bool.eq_false_iff.mp hrunning)⟩
    | resume | embed _ _ => cases hclosing
  -- The others leave the worker idle, or with an entry that is being embedded.
  all_goals
    obtain rfl := eq_of_getElem?_set hk hk'
    cases hclosing

/-- A step of a worker replaces that worker. -/
theorem Works.workers (h : w.Works i k v) (hk : w.workers[i]? = some k) :
    ∃ k', v.workers = w.workers.set i k' := by
  obtain ⟨k', hover⟩ := h.handover hk
  exact ⟨k', hover.workers⟩

private theorem Works.orderly (h : w.Works i k v) (hk : w.workers[i]? = some k)
    (hw : w.Orderly) : v.Orderly := by
  obtain ⟨k', hworkers⟩ := h.workers hk
  have hoffers := h.offers w.entered
  refine ⟨fun o' ho' => ?_, ?_, fun j l hl hclosing => ?_⟩
  · obtain ⟨o, ho, hb⟩ := mem_of_becomes hoffers ho'
    rw [hb.worker, hb.entry, hworkers, List.length_set]
    exact hw.routed o ho
  · rw [h.accepted, h.frame.entered]
    exact hw.numbered
  · by_cases hj : j = i
    · subst hj
      exact h.closed hk (hw.closing j k hk) hl hclosing
    · rw [hworkers, List.getElem?_set_ne (Ne.symm hj)] at hl
      have hold := hw.closing j l hl hclosing
      refine ⟨hold.queue, hold.pending, any_isWaitingFor_of_becomes hoffers hold.offers, ?_⟩
      rw [h.frame.accepting]
      exact hold.accepting

/-- Nobody starts to wait for a worker that closes. -/
private theorem Occurs.none_waits {j : Nat} {l : Worker} (h : w.Occurs v)
    (hl : w.workers[j]? = some l) (hclosed : w.Closed j l) :
    v.offers.any (isWaitingFor j) = false := by
  obtain ⟨old, new, hoffers, hold, hnew⟩ := h.offers
  rw [hoffers, List.any_append, any_isWaitingFor_of_becomes hold hclosed.offers, Bool.false_or,
    List.any_eq_false]
  intro o ho hwaits
  -- A new offer waits only while the pipeline is open, and for a worker that is there.
  obtain ⟨haccepting, k, hk, hgone⟩ := (hnew o ho).2 (Offer.isSettled_of_isWaitingFor hwaits)
  have hj : o.worker = j := by
    simp only [isWaitingFor, Bool.and_eq_true, beq_iff_eq] at hwaits
    exact hwaits.1
  obtain rfl : l = k := by simpa [hj, hl] using hk
  rw [hclosed.accepting hgone] at haccepting
  cases haccepting

theorem Occurs.accepting (h : w.Occurs v) (hw : w.accepting = false) :
    v.accepting = false := by
  cases h <;> first | exact hw | rfl

private theorem Occurs.orderly (h : w.Occurs v) (hw : w.Orderly) : v.Orderly := by
  have hlength : v.workers.length = w.workers.length := by
    rcases h.arrives_or_still hw with ⟨i, k, e, ha⟩ | hs
    · rw [ha.workers, List.length_set]
    · rw [hs.workers]
  refine ⟨fun o' ho' => ?_, ?_, fun j l hl hclosing => ?_⟩
  · obtain ⟨old, new, hoffers, hold, hnew⟩ := h.offers
    rw [hlength]
    rcases List.mem_append.mp (hoffers ▸ ho') with ho' | ho'
    · obtain ⟨o, ho, hb⟩ := mem_of_becomes hold ho'
      rw [hb.worker, hb.entry]
      exact hw.routed o ho
    · exact (hnew o' ho').1
  · rcases h.arrives_or_still hw with ⟨i, k, e, ha⟩ | hs
    · rw [ha.entered, List.range_succ]
      exact (ha.accepted.map _).trans
        ((hw.numbered.cons _).trans (List.perm_append_singleton _ _).symm)
    · rw [hs.accepted, hs.entered]
      exact hw.numbered
  · -- Entries arrive at workers that are not closing, so this one is as it was.
    have hl' : w.workers[j]? = some l := by
      rcases h.arrives_or_still hw with ⟨i, k, e, ha⟩ | hs
      · rw [ha.workers] at hl
        by_cases hj : i = j
        · subst hj
          obtain rfl := eq_of_getElem?_set ha.worker hl
          have hopen := ha.closing
          simp only [Worker.isClosing] at hopen hclosing
          rw [hopen] at hclosing
          cases hclosing
        · rwa [List.getElem?_set_ne hj] at hl
      · rwa [hs.workers] at hl
    have hclosed := hw.closing j l hl' hclosing
    exact ⟨hclosed.queue, hclosed.pending, h.none_waits hl' hclosed,
      fun hgone => h.accepting (hclosed.accepting hgone)⟩

/-- What a step makes of a worker: it is a step of this worker, or changes its queue at most. -/
theorem worker_cases {a : Action} {k' : Worker} (h : w.apply a = some v) (hw : w.Orderly)
    (hk : w.workers[i]? = some k) (hk' : v.workers[i]? = some k') :
    w.Works i k v ∨ ∃ queue, k' = { k with queue } := by
  obtain ⟨j, l, -, hl, hworks⟩ | ⟨-, hoccurs⟩ := apply_cases h
  · obtain ⟨l', hv⟩ := hworks.workers hl
    by_cases hij : j = i
    · subst hij
      obtain rfl : k = l := Option.some.inj (hk.symm.trans hl)
      exact .inl hworks
    · rw [hv, List.getElem?_set_ne hij, hk] at hk'
      exact .inr ⟨k.queue, (Option.some.inj hk').symm⟩
  · obtain ⟨j, l, e, harrives⟩ | hstill := hoccurs.arrives_or_still hw
    · rw [harrives.workers] at hk'
      by_cases hij : j = i
      · subst hij
        obtain rfl : k = l := Option.some.inj (hk.symm.trans harrives.worker)
        exact .inr ⟨_, (eq_of_getElem?_set hk hk').symm⟩
      · rw [List.getElem?_set_ne hij, hk] at hk'
        exact .inr ⟨k.queue, (Option.some.inj hk').symm⟩
    · rw [hstill.workers, hk] at hk'
      exact .inr ⟨k.queue, (Option.some.inj hk').symm⟩

/-- **Every step keeps the order.** -/
theorem Orderly.apply {a : Action} (hw : w.Orderly) (h : w.apply a = some v) : v.Orderly := by
  obtain ⟨i, k, -, hk, hworks⟩ | ⟨-, hoccurs⟩ := apply_cases h
  · exact hworks.orderly hk hw
  · exact hoccurs.orderly hw

end World

end LogIntake.Pipeline
