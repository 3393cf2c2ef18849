import Mathlib.Data.List.Dedup
import Mathlib.Data.List.Sort
import LogIntake.Proofs.Pipeline.Conservation

/-!
# Order of entries

All entries of a source belong to one worker, and a worker stores entries in the order in which
they entered its queue. `World.Ordered` says so of a world and of what has been stored so far: for
each worker, what it stored comes before what it holds, in the order of numbers, and so does what
it has asked for before what it has still to ask for. `Ordered.apply` keeps this in every step.

From there on sources come for free: the entries of a source are among those of one worker, so
what is stored of them, or asked for, is a part of what entered, in the same order
(`Run.stored_sublist`, `Run.firstAsked_sublist`).
-/

namespace LogIntake.Pipeline

/-- The entry at hand and the queue: what a worker has not asked for, or not for the last
time. -/
def Worker.ahead (k : Worker) : List Item :=
  k.phase.inHand ++ k.queue

theorem Worker.ahead_enqueue (k : Worker) (x : Item) :
    ({ k with queue := k.queue ++ [x] } : Worker).ahead = k.ahead ++ [x] := by
  rw [ahead, ahead, ← List.append_assoc]

theorem Worker.ahead_sublist (k : Worker) : k.ahead.Sublist k.items := by
  rw [Worker.items, List.append_assoc]
  exact List.sublist_append_right _ _

namespace World

/-- The worker that an entry belongs to. -/
def home (w : World) (x : Item) : Nat :=
  workerOf x.entry.source w.workers.length

/-- A part of what the worker with a number holds; nobody holds anything under other numbers. -/
def part (w : World) (f : Worker → List Item) (j : Nat) : List Item :=
  (w.workers[j]?).elim [] f

/-- The entries that were asked for, in the order in which they were for the first time. -/
def firstAsked (w : World) : List Item :=
  (w.asked.map Asked.item).dedup.reverse

/-- The order among what was stored or asked for and what is held. -/
structure Ordered (w : World) (stored : List Item) : Prop where
  routed : ∀ j, ∀ x ∈ w.part Worker.items j, w.home x = j
  lines : ∀ j, (stored.filter (w.home · = j) ++ w.part Worker.items j).Pairwise
    fun x y => x.id < y.id
  calls : ∀ j, (((w.asked.map Asked.item).filter (w.home · = j)).reverse ++
    w.part Worker.ahead j).Pairwise fun x y => x.id ≤ y.id

variable {w v : World} {i : Nat} {k k' : Worker}

theorem part_eq (f : Worker → List Item) (hk : w.workers[i]? = some k) : w.part f i = f k := by
  rw [part, hk, Option.elim_some]

/-- A step that replaces a worker changes what it holds, and nothing else. -/
theorem part_set (f : Worker → List Item) (hk : w.workers[i]? = some k)
    (hv : v.workers = w.workers.set i k') (j : Nat) :
    v.part f j = if j = i then f k' else w.part f j := by
  rw [part, hv]
  split
  · rename_i hj
    rw [hj, getElem?_set_worker hk, Option.elim_some]
  · rename_i hj
    rw [List.getElem?_set_ne (Ne.symm hj), part]

theorem mem_held_of_part {f : Worker → List Item} (hf : ∀ k, f k ⊆ k.items) {j : Nat} {x : Item}
    (hx : x ∈ w.part f j) : x ∈ w.held := by
  cases hk : w.workers[j]? with
  | none => simp [part, hk] at hx
  | some k =>
    rw [part, hk, Option.elim_some] at hx
    exact mem_held hk (hf k hx)

/-- Workers start with nothing. -/
theorem part_start (s : Settings) (c : Client) (b : Backend) {f : Worker → List Item}
    (hf : f (.start s) = []) (j : Nat) : (start s c b).part f j = [] := by
  simp only [part, start, List.getElem?_replicate]
  split
  · exact hf
  · rfl

theorem ordered_start (s : Settings) (c : Client) (b : Backend) : (start s c b).Ordered [] := by
  refine ⟨fun j => ?_, fun j => ?_, fun j => ?_⟩
  · simp [part_start s c b (f := Worker.items) rfl]
  · simp [part_start s c b (f := Worker.items) rfl]
  · rw [part_start s c b rfl]
    exact .nil

/-! ### Steps of workers -/

theorem ahead_proceed (k : Worker) (next : Next) :
    (k.proceed next).ahead = next.inHand ++ k.queue := by
  cases next <;> rfl

theorem ahead_flush (b : Backoff) (k : Worker) (next : Next) :
    (k.flush b next).ahead = next.inHand ++ k.queue := by
  rw [Worker.flush]
  split
  · exact ahead_proceed _ _
  · rfl

/-- What a worker has still to ask for gets less from the front. -/
theorem Works.ahead (h : w.Works i k v) (hk : w.workers[i]? = some k)
    (hk' : v.workers[i]? = some k') : k'.ahead.Sublist k.ahead := by
  cases h
  case leaves | breaks =>
    obtain rfl := eq_of_getElem?_set hk hk'
    exact List.nil_sublist _
  case flushes | drains | interrupts | fills =>
    obtain rfl := eq_of_getElem?_set hk hk'
    rw [ahead_flush]
    simp [Worker.ahead, Worker.collect, Phase.inHand, Next.inHand, *]
  case stores hphase _ _ | drops hphase _ _ =>
    obtain rfl := eq_of_getElem?_set hk hk'
    rw [ahead_proceed]
    simp [Worker.ahead, Phase.inHand, hphase]
  all_goals
    obtain rfl := eq_of_getElem?_set hk hk'
    simp [Worker.ahead, Worker.collect, Phase.inHand, *]

variable {l : Ledger}

/-- An entry may be asked for again before those behind it. -/
private theorem pairwise_again {xs ys zs : List Item} {x : Item}
    (h : (xs ++ x :: ys).Pairwise fun x y => x.id ≤ y.id) (hz : zs.Sublist (x :: ys)) :
    (xs ++ [x] ++ zs).Pairwise fun x y => x.id ≤ y.id := by
  refine List.Pairwise.sublist (hz.append_left _) ?_
  rw [List.append_assoc, List.singleton_append]
  obtain ⟨hxs, hys, hcross⟩ := List.pairwise_append.mp h
  refine List.pairwise_append.mpr ⟨hxs, List.pairwise_cons.mpr ⟨fun y hy => ?_, hys⟩, ?_⟩
  · rcases List.mem_cons.mp hy with rfl | hy
    · exact Nat.le_refl _
    · exact (List.pairwise_cons.mp hys).1 y hy
  · intro a ha b hb
    rcases List.mem_cons.mp hb with rfl | hb
    · exact hcross a ha b List.mem_cons_self
    · exact hcross a ha b hb

private theorem Ordered.home_of_items (hw : w.Ordered (l.met .stored))
    (hk : w.workers[i]? = some k) {x : Item} (hx : x ∈ k.items) : w.home x = i :=
  hw.routed i x (by rwa [part_eq Worker.items hk])

/-- What a worker stores, and what it still holds, is a part of what it held before. -/
private theorem Ordered.lines_of_handover {gone : Ledger} (hw : w.Ordered (l.met .stored))
    (hk : w.workers[i]? = some k) (ho : w.Handover v i k k' gone) (j : Nat) :
    ((((l ++ gone).met .stored).filter (w.home · = j)) ++ v.part Worker.items j).Pairwise
      fun x y => x.id < y.id := by
  have hlines := hw.lines j
  have hgone : ∀ x ∈ gone.met .stored, w.home x = i := fun x hx =>
    hw.home_of_items hk (ho.order.subset (List.mem_append_left _ hx))
  rw [Ledger.met_append, List.filter_append, part_set Worker.items hk ho.workers]
  by_cases hj : j = i
  · subst hj
    rw [part_eq Worker.items hk] at hlines
    rw [if_pos rfl, List.append_assoc,
      (List.filter_eq_self (l := gone.met .stored)).mpr (by simpa using hgone)]
    exact hlines.sublist (ho.order.append_left _)
  · rw [if_neg hj, (List.filter_eq_nil_iff (l := gone.met .stored)).mpr ?_, List.append_nil]
    · exact hlines
    · intro x hx
      simpa [hgone x hx] using Ne.symm hj

/-- A worker asks for the entry at hand, which is in front of what it has still to ask for. -/
private theorem Ordered.calls_of_works (hw : w.Ordered (l.met .stored)) (h : w.Works i k v)
    (hk : w.workers[i]? = some k) (hv : v.workers = w.workers.set i k') (j : Nat) :
    (((v.asked.map Asked.item).filter (w.home · = j)).reverse ++
      v.part Worker.ahead j).Pairwise fun x y => x.id ≤ y.id := by
  have hcalls := hw.calls j
  have hahead : k'.ahead.Sublist k.ahead := by
    refine h.ahead hk ?_
    rw [hv, getElem?_set_worker hk]
  rw [part_set Worker.ahead hk hv]
  -- Who is not asked for keeps the list of calls; who is joins its end and may stay in front.
  rcases h.asked with hasked | ⟨item, call, hphase, hasked⟩
  · rw [hasked]
    split
    · rename_i hj
      subst hj
      rw [part_eq Worker.ahead hk] at hcalls
      exact hcalls.sublist (hahead.append_left _)
    · exact hcalls
  · have hhome : w.home item = i :=
      hw.home_of_items hk (by simp [Worker.items, hphase, Phase.inHand])
    rw [hasked, List.map_cons]
    split
    · rename_i hj
      subst hj
      have hfront : k.ahead = item :: k.queue := by simp [Worker.ahead, hphase, Phase.inHand]
      rw [part_eq Worker.ahead hk, hfront] at hcalls
      rw [hfront] at hahead
      rw [List.filter_cons_of_pos (by simpa using hhome), List.reverse_cons]
      exact pairwise_again hcalls hahead
    · rename_i hj
      rw [List.filter_cons_of_neg (by simpa [hhome] using Ne.symm hj)]
      exact hcalls

theorem Ordered.works (hw : w.Ordered (l.met .stored)) (h : w.Works i k v)
    (hk : w.workers[i]? = some k) : v.Ordered ((l ++ w.departures i).met .stored) := by
  obtain ⟨k', ho⟩ := h.handover hk
  have hhome : ∀ x, v.home x = w.home x := fun x => by
    rw [home, home, ho.workers, List.length_set]
  refine ⟨fun j x hx => ?_, fun j => ?_, fun j => ?_⟩
  · rw [hhome]
    rw [part_set Worker.items hk ho.workers] at hx
    split at hx
    · rename_i hj
      rw [hj]
      exact hw.home_of_items hk (ho.order.subset (List.mem_append_right _ hx))
    · exact hw.routed j x hx
  · simp only [hhome]
    exact hw.lines_of_handover hk ho j
  · simp only [hhome]
    exact hw.calls_of_works h hk ho.workers j

/-! ### Other steps -/

/-- What is last in a list may have a number above all others. -/
private theorem pairwise_append_singleton {r : Item → Item → Prop} {xs ys : List Item} {x : Item}
    (h : (xs ++ ys).Pairwise r) (hx : ∀ y ∈ xs ++ ys, r y x) :
    (xs ++ (ys ++ [x])).Pairwise r := by
  rw [← List.append_assoc]
  refine List.pairwise_append.mpr ⟨h, List.pairwise_singleton _ _, fun y hy z hz => ?_⟩
  rw [List.mem_singleton.mp hz]
  exact hx y hy

theorem Balanced.id_lt_of_part (hb : w.Balanced l) {f : Worker → List Item}
    (hf : ∀ k, f k ⊆ k.items) {j : Nat} {x : Item} (hx : x ∈ w.part f j) : x.id < w.entered :=
  hb.orderly.id_lt (hb.custody.subset (List.mem_append_right _ (mem_held_of_part hf hx)))

theorem Balanced.id_lt_of_met (hb : w.Balanced l) {f : Fate} {x : Item} (hx : x ∈ l.met f) :
    x.id < w.entered :=
  hb.orderly.id_lt
    (hb.custody.subset (List.mem_append_left _ ((Ledger.met_sublist l f).subset hx)))

theorem Balanced.id_lt_of_asked (hb : w.Balanced l) {x : Item}
    (hx : x ∈ w.asked.map Asked.item) : x.id < w.entered := by
  obtain ⟨a, ha, rfl⟩ := List.mem_map.mp hx
  exact hb.orderly.id_lt (hb.asked a ha)

theorem Ordered.arrives {e : Entry} (hw : w.Ordered (l.met .stored)) (hb : w.Balanced l)
    (h : w.Arrives v i k e) : v.Ordered (l.met .stored) := by
  have hhome : ∀ x, v.home x = w.home x := fun x => by
    rw [home, home, h.workers, List.length_set]
  have hitems := part_eq Worker.items h.worker
  have hahead := part_eq Worker.ahead h.worker
  refine ⟨fun j x hx => ?_, fun j => ?_, fun j => ?_⟩
  · rw [hhome]
    rw [part_set Worker.items h.worker h.workers, Worker.items_enqueue, ← hitems] at hx
    split at hx
    · rename_i hj
      subst hj
      rcases List.mem_append.mp hx with hx | hx
      · exact hw.routed j x hx
      · rw [List.mem_singleton.mp hx]
        exact h.home.symm
    · exact hw.routed j x hx
  · simp only [hhome]
    rw [part_set Worker.items h.worker h.workers, Worker.items_enqueue, ← hitems]
    split
    · rename_i hj
      subst hj
      refine pairwise_append_singleton (hw.lines j) fun y hy => ?_
      rcases List.mem_append.mp hy with hy | hy
      · exact hb.id_lt_of_met (List.filter_sublist.subset hy)
      · exact hb.id_lt_of_part (fun _ => List.Subset.refl _) hy
    · exact hw.lines j
  · simp only [hhome, h.asked]
    rw [part_set Worker.ahead h.worker h.workers, Worker.ahead_enqueue, ← hahead]
    split
    · rename_i hj
      subst hj
      refine pairwise_append_singleton (hw.calls j) fun y hy => ?_
      rcases List.mem_append.mp hy with hy | hy
      · exact Nat.le_of_lt
          (hb.id_lt_of_asked (List.filter_sublist.subset (List.mem_reverse.mp hy)))
      · exact Nat.le_of_lt (hb.id_lt_of_part (fun k => k.ahead_sublist.subset) hy)
    · exact hw.calls j

theorem Still.part (h : w.Still v) (f : Worker → List Item) : v.part f = w.part f := by
  funext j
  rw [World.part, World.part, h.workers]

theorem Ordered.still (hw : w.Ordered (l.met .stored)) (h : w.Still v) :
    v.Ordered (l.met .stored) := by
  have hhome : ∀ x, v.home x = w.home x := fun x => by rw [home, home, h.workers]
  refine ⟨fun j => ?_, fun j => ?_, fun j => ?_⟩
  · simp only [hhome, h.part]
    exact hw.routed j
  · simp only [hhome, h.part]
    exact hw.lines j
  · simp only [hhome, h.part, h.asked]
    exact hw.calls j

/-- **Every step keeps the order.** -/
theorem Ordered.apply {a : Action} (hw : w.Ordered (l.met .stored)) (hb : w.Balanced l)
    (h : w.apply a = some v) : v.Ordered ((l ++ w.leaving a).met .stored) := by
  obtain ⟨i, k, rfl, hk, hworks⟩ | ⟨hother, hoccurs⟩ := apply_cases h
  · exact hw.works hworks hk
  · rw [w.leaving_eq_nil hother, List.append_nil]
    rcases hoccurs.arrives_or_still hb.orderly with ⟨i, k, e, harrives⟩ | hstill
    · exact hw.arrives hb harrives
    · exact hw.still hstill

end World

/-! ### Sources -/

/-- Whether an entry is one of a source. -/
def Item.isFrom (source : String) (x : Item) : Bool :=
  x.entry.source == source

/-- What is in the order of numbers is a part of whatever else is and contains it. -/
theorem sublist_of_pairwise {xs ys : List Item} (hx : xs.Pairwise fun x y => x.id < y.id)
    (hy : ys.Pairwise fun x y => x.id < y.id) (h : xs ⊆ ys) : xs.Sublist ys := by
  have : Std.Antisymm fun x y : Item => x.id < y.id := ⟨fun x y h h' => by omega⟩
  have hnodup : xs.Nodup := hx.imp fun {x y} hxy heq => by
    rw [heq] at hxy
    exact Nat.lt_irrefl _ hxy
  exact List.sublist_of_subperm_of_pairwise (List.subperm_of_subset hnodup h) hx hy

/-- The entries of a source are among those of one worker. -/
private theorem filter_isFrom (w : World) (source : String) (xs : List Item) :
    xs.filter (Item.isFrom source) =
      (xs.filter (w.home · = workerOf source w.workers.length)).filter (Item.isFrom source) := by
  rw [List.filter_filter]
  refine List.filter_congr fun x _ => ?_
  cases h : x.isFrom source with
  | false => rfl
  | true =>
    have hsource : x.entry.source = source := by simpa [Item.isFrom] using h
    simp [World.home, hsource]

namespace Run

variable {s : Settings} {c : Client} {b : Backend} {w : World}

theorem ordered (r : Run (World.start s c b) w) : w.Ordered (r.ledger.met .stored) := by
  induction r with
  | refl => exact World.ordered_start s c b
  | step r a h ih => exact ih.apply r.balanced h

theorem mem_arrivals (r : Run (World.start s c b) w) {x : Item} :
    x ∈ r.arrivals ↔ x ∈ w.accepted :=
  (r.arrivals_perm (World.orderly_start s c b)).mem_iff

theorem arrivals_nodup (r : Run (World.start s c b) w) : r.arrivals.Nodup :=
  (r.arrivals_pairwise (World.orderly_start s c b)).imp fun {x y} hxy heq => by
    rw [heq] at hxy
    exact Nat.lt_irrefl _ hxy

private theorem arrivals_filter (r : Run (World.start s c b) w) (source : String) :
    (r.arrivals.filter (Item.isFrom source)).Pairwise fun x y => x.id < y.id :=
  (r.arrivals_pairwise (World.orderly_start s c b)).sublist List.filter_sublist

/-- The entries of a source are stored in the order in which they entered their queue. -/
theorem stored_sublist (r : Run (World.start s c b) w) (source : String) :
    ((r.ledger.met .stored).filter (Item.isFrom source)).Sublist
      (r.arrivals.filter (Item.isFrom source)) := by
  refine sublist_of_pairwise ?_ (r.arrivals_filter source) ?_
  · rw [filter_isFrom w]
    have hlines := r.ordered.lines (workerOf source w.workers.length)
    exact (List.pairwise_append.mp hlines).1.sublist List.filter_sublist
  · refine List.filter_subset _ fun x hx => r.mem_arrivals.mpr ?_
    exact r.balanced.custody.subset
      (List.mem_append_left _ ((Ledger.met_sublist _ _).subset hx))

/-- The entries of a source are asked for, each for the first time, in the order in which they
entered their queue. -/
theorem firstAsked_sublist (r : Run (World.start s c b) w) (source : String) :
    (w.firstAsked.filter (Item.isFrom source)).Sublist
      (r.arrivals.filter (Item.isFrom source)) := by
  have haccepted : ∀ x ∈ w.firstAsked, x ∈ w.accepted := by
    intro x hx
    rw [World.firstAsked, List.mem_reverse, List.mem_dedup] at hx
    obtain ⟨a, ha, rfl⟩ := List.mem_map.mp hx
    exact r.balanced.asked a ha
  have hcalls : (w.firstAsked.filter (Item.isFrom source)).Pairwise fun x y => x.id ≤ y.id := by
    rw [filter_isFrom w]
    have hcalls := r.ordered.calls (workerOf source w.workers.length)
    refine (List.pairwise_append.mp hcalls).1.sublist (List.filter_sublist.trans ?_)
    rw [World.firstAsked, ← List.filter_reverse]
    exact ((List.dedup_sublist _).reverse).filter _
  have hnodup : w.firstAsked.Nodup := List.nodup_reverse.mpr (List.nodup_dedup _)
  refine sublist_of_pairwise ?_ (r.arrivals_filter source) ?_
  · -- Numbers are not below one another, and different, as no entry is there twice.
    refine (hcalls.and (hnodup.filter _)).imp_of_mem fun {x y} hx hy hxy => ?_
    refine Nat.lt_of_le_of_ne hxy.1 fun heq => hxy.2 ?_
    exact List.inj_on_of_nodup_map r.balanced.orderly.nodup
      (haccepted x (List.filter_sublist.subset hx))
      (haccepted y (List.filter_sublist.subset hy)) heq
  · exact List.filter_subset _ fun x hx => r.mem_arrivals.mpr (haccepted x hx)

end Run

end LogIntake.Pipeline
