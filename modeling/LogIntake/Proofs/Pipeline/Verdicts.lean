import LogIntake.Proofs.Dedup.Steady
import LogIntake.Proofs.Pipeline.Order
import LogIntake.Proofs.Pipeline.Reliable

/-!
# What becomes of the entries of a source

Where backends are reliable, nothing is forgotten for its age or for want of room, and no worker
leaves at the deadline, the fate of an entry follows from its text and from the entries of its
source before it. A `Judge` knows what this takes; `Judge.fates` goes through the entries of one
source from the first to the last, without a look at workers, queues, batches or times.

A step of a worker passes at most one verdict (`Moves`): an entry that was at hand is stored in the
end, or left out as a duplicate or for want of an embedding, as the judge says. `World.Judged` says
of a source that all verdicts so far are those of the judge, and where the entries are that they
were passed on. Every step keeps it for all sources (`World.AsJudged`), so at the end of a run all
entries of a source have met their fates (`Run.fates`).
-/

namespace LogIntake.Pipeline

/-! ### Verdicts -/

/-- What the fates of the entries of a source depend on. -/
structure Judge where
  outcome : String → Except Fault Embedding
  dimension : Nat
  dedup : DedupSettings

namespace Judge

variable (j : Judge)

/-- The vector that an entry gets, if it gets one. -/
def vector? (e : Entry) : Option Embedding :=
  LogIntake.vector? j.outcome j.dimension e.message

/-- The fate of an entry, from what is recalled of its source. -/
def fate (past : List Embedding) (e : Entry) : Fate :=
  match j.vector? e with
  | none => .failed
  | some v =>
    match Deduplicator.decide j.dedup past v with
    | .suppress => .duplicate
    | .accept => .stored

/-- What is recalled of a source after one more of its entries. -/
def remember (past : List Embedding) (e : Entry) : List Embedding :=
  match j.vector? e with
  | none => past
  | some v => Deduplicator.remember j.dedup past v

/-- What is recalled of a source after some of its entries. -/
def past (xs : List Item) : List Embedding :=
  xs.foldl (fun past x => j.remember past x.entry) []

/-- The fates of further entries of a source. -/
def fatesFrom (past : List Embedding) : List Item → Ledger
  | [] => []
  | x :: rest => (x, j.fate past x.entry) :: fatesFrom (j.remember past x.entry) rest

/-- The fates of the entries of a source. -/
def fates (xs : List Item) : Ledger :=
  j.fatesFrom [] xs

theorem past_append_singleton (xs : List Item) (x : Item) :
    j.past (xs ++ [x]) = j.remember (j.past xs) x.entry := by
  rw [past, List.foldl_append]
  rfl

theorem fates_append_singleton (xs : List Item) (x : Item) :
    j.fates (xs ++ [x]) = j.fates xs ++ [(x, j.fate (j.past xs) x.entry)] := by
  have hfrom : ∀ past, j.fatesFrom past (xs ++ [x]) = j.fatesFrom past xs ++
      [(x, j.fate (xs.foldl (fun past x => j.remember past x.entry) past) x.entry)] := by
    induction xs with
    | nil => exact fun past => rfl
    | cons y xs ih =>
      intro past
      rw [List.cons_append, fatesFrom, ih]
      rfl
  exact hfrom []

/-- Numbers do not matter. -/
theorem map_entry_met_fates {xs ys : List Item} (h : xs.map Item.entry = ys.map Item.entry)
    (f : Fate) : ((j.fates xs).met f).map Item.entry = ((j.fates ys).met f).map Item.entry := by
  have hfrom : ∀ past, ((j.fatesFrom past xs).met f).map Item.entry =
      ((j.fatesFrom past ys).met f).map Item.entry := by
    induction xs generalizing ys with
    | nil =>
      rw [List.map_nil, eq_comm, List.map_eq_nil_iff] at h
      exact fun past => by rw [h]
    | cons x xs ih =>
      cases ys with
      | nil => cases h
      | cons y ys =>
        obtain ⟨hentry, hrest⟩ := List.cons.inj h
        intro past
        rw [fatesFrom, fatesFrom, hentry]
        have hrest := ih hrest (j.remember past y.entry)
        simp only [Ledger.met, List.filter_cons] at hrest ⊢
        split
        · simpa [hentry] using hrest
        · exact hrest
  exact hfrom []

end Judge

/-! ### A worker -/

/-- The entries whose points wait or are being written. -/
def Worker.shelf (k : Worker) : List Item :=
  k.phase.batch.map itemOf ++ k.pending.pending.map itemOf

theorem Worker.shelf_subset (k : Worker) : k.shelf ⊆ k.items := by
  rw [items, List.append_assoc]
  exact List.subset_append_left _ _

theorem Worker.shelf_proceed (k : Worker) (next : Next) :
    (k.proceed next).shelf = k.pending.pending.map itemOf := by
  cases next <;> rfl

theorem Worker.shelf_flush (b : Backoff) (k : Worker) (next : Next) :
    (k.flush b next).shelf = k.pending.pending.map itemOf := by
  rw [flush]
  split
  · rename_i hempty
    have hnil : k.pending.pending = [] := by simpa [Accumulator.isEmpty] using hempty
    rw [shelf_proceed, hnil]
    rfl
  · simp [shelf, Phase.batch, Accumulator.cleared]

/-- What makes the verdicts of a worker those of a judge. -/
structure Worker.IsCalm (j : Judge) (known : List String) (k : Worker) : Prop where
  sure : k.phase.IsSure j.outcome
  steady : k.dedup.IsSteady known
  settings : k.dedup.settings = j.dedup

/-- A deduplicator has taken note of an entry. -/
structure Notes (j : Judge) (known : List String) (d d' : Deduplicator) (e : Entry) : Prop where
  vectors : ∀ s, d'.vectors s = if s = e.source then j.remember (d.vectors s) e else d.vectors s
  steady : d'.IsSteady known
  settings : d'.settings = j.dedup

/-- A worker has become another one in a step, in which some entries left and at most one verdict
was passed. -/
structure Moves (j : Judge) (known : List String) (k k' : Worker) (gone verdict : Ledger) :
    Prop where
  ahead : k.ahead = verdict.items ++ k'.ahead
  stored : gone.met .stored ++ k'.shelf = k.shelf ++ verdict.met .stored
  left : ∀ f, f = .duplicate ∨ f = .failed → gone.met f = verdict.met f
  judged : (verdict = [] ∧ ∀ s, k'.dedup.vectors s = k.dedup.vectors s) ∨
    ∃ x, verdict = [(x, j.fate (k.dedup.vectors x.entry.source) x.entry)] ∧
      ∀ s, k'.dedup.vectors s = if s = x.entry.source then j.remember (k.dedup.vectors s) x.entry
        else k.dedup.vectors s
  steady : k'.dedup.IsSteady known
  settings : k'.dedup.settings = j.dedup

namespace Moves

variable {j : Judge} {known : List String} {k k' : Worker} {x : Item}

/-- Points are stored, or nothing happens to entries at all. -/
theorem ofStored (hk : k.IsCalm j known) (xs : List Item) (hahead : k'.ahead = k.ahead)
    (hshelf : k.shelf = xs ++ k'.shelf) (hdedup : k'.dedup = k.dedup) :
    Moves j known k k' (.all .stored xs) [] where
  ahead := hahead.symm
  stored := by simp [hshelf, Ledger.met_all]
  left := by rintro f (rfl | rfl) <;> simp [Ledger.met_all]
  judged := .inl ⟨rfl, fun s => by rw [hdedup]⟩
  steady := hdedup ▸ hk.steady
  settings := hdedup ▸ hk.settings

theorem ofQuiet (hk : k.IsCalm j known) (hahead : k'.ahead = k.ahead) (hshelf : k'.shelf = k.shelf)
    (hdedup : k'.dedup = k.dedup) : Moves j known k k' [] [] :=
  ofStored hk [] hahead hshelf.symm hdedup

/-- The points that wait go on to the batch that is written. -/
theorem ofFlush (hk : k.IsCalm j known) (b : Backoff) {next : Next} (hbatch : k.phase.batch = [])
    (hhand : k.phase.inHand = next.inHand) : Moves j known k (k.flush b next) [] [] := by
  refine ofQuiet hk ?_ ?_ (Worker.dedup_flush b k next)
  · rw [World.ahead_flush, Worker.ahead, hhand]
  · rw [Worker.shelf_flush, Worker.shelf, hbatch]
    rfl

/-- The entry at hand leaves. -/
theorem ofHand {f : Fate} (hf : f ≠ .stored)
    (hfate : j.fate (k.dedup.vectors x.entry.source) x.entry = f)
    (hahead : k.ahead = x :: k'.ahead) (hshelf : k'.shelf = k.shelf)
    (hnotes : Notes j known k.dedup k'.dedup x.entry) :
    Moves j known k k' (.all f [x]) [(x, f)] where
  ahead := hahead
  stored := by
    have hnone : (Ledger.all f [x]).met .stored = [] := by rw [Ledger.met_all, if_neg hf]
    rw [show [(x, f)] = Ledger.all f [x] from rfl, hnone, hshelf, List.nil_append, List.append_nil]
  left _ _ := rfl
  judged := .inr ⟨x, by rw [hfate], hnotes.vectors⟩
  steady := hnotes.steady
  settings := hnotes.settings

/-- The entry at hand joins the points that wait. -/
theorem ofCollected (hfate : j.fate (k.dedup.vectors x.entry.source) x.entry = .stored)
    (hahead : k.ahead = x :: k'.ahead) (hshelf : k'.shelf = k.shelf ++ [x])
    (hnotes : Notes j known k.dedup k'.dedup x.entry) :
    Moves j known k k' [] [(x, .stored)] where
  ahead := hahead
  stored := hshelf
  left := by rintro f (rfl | rfl) <;> rfl
  judged := .inr ⟨x, by rw [hfate], hnotes.vectors⟩
  steady := hnotes.steady
  settings := hnotes.settings

end Moves

namespace World

variable {j : Judge} {known : List String} {w v : World} {i : Nat} {k k' : Worker}

/-- What it takes that a step of a worker is as the judge says. -/
structure Grants (w : World) (j : Judge) (known : List String) (k : Worker) : Prop where
  reliable : w.backend.IsReliable w.client.timeout j.outcome
  dimension : w.client.dimension = j.dimension
  room : known.length ≤ j.dedup.maxStreams
  calm : k.IsCalm j known
  young : k.dedup.IsYoung w.fineNow
  known : ∀ x ∈ k.ahead, x.entry.source ∈ known
  hover : w.isOver = false

section

variable (hg : w.Grants j known k) {item : Item} {call : Call Embedding}
  (hphase : k.phase = .embedding item call)
include hg hphase

/-- What a worker decides on the embedding of the entry at hand, and recalls after it. -/
theorem considered_of_grants {x : Embedding}
    (hstep : w.embedProgress item call = .ended (.gives x)) :
    (j.fate (k.dedup.vectors item.entry.source) item.entry =
        match (w.considered k item x).1 with
        | .suppress => .duplicate
        | .accept => .stored) ∧
      Notes j known k.dedup (w.considered k item x).2 item.entry := by
  have hvector : j.vector? item.entry = some x := by
    have hsettles := settles_of_embedding hg.calm.sure hphase hstep
    rwa [hg.dimension] at hsettles
  have hsource : item.entry.source ∈ known :=
    hg.known item (by simp [Worker.ahead, hphase, Phase.inHand])
  have hroom := hg.room
  rw [← hg.calm.settings] at hroom
  have heq := Deduplicator.consider_eq hg.calm.steady hg.young hsource hroom x
  refine ⟨?_, fun s => ?_, ?_, ?_⟩
  · rw [considered, heq, Judge.fate, hvector, hg.calm.settings]
  · rw [considered, Deduplicator.vectors_consider hg.calm.steady hg.young hsource hroom]
    split
    · rename_i hs
      rw [hs, Judge.remember, hvector, hg.calm.settings]
    · rfl
  · exact Deduplicator.isSteady_consider hg.calm.steady hg.young hsource hroom x
  · rw [considered, heq]
    exact hg.calm.settings

/-- An entry that is not embedded fails, and leaves nothing behind. -/
theorem failed_of_grants {f : Fault} (hstep : w.embedProgress item call = .ended (.fails f)) :
    j.fate (k.dedup.vectors item.entry.source) item.entry = .failed ∧
      Notes j known k.dedup k.dedup item.entry := by
  have hvector : j.vector? item.entry = none := by
    have hsettles := settles_of_embedding hg.calm.sure hphase hstep
    rwa [hg.dimension] at hsettles
  refine ⟨?_, fun s => ?_, hg.calm.steady, hg.calm.settings⟩
  · rw [Judge.fate, hvector]
  · rw [Judge.remember, hvector]
    exact (ite_self _).symm

end

/-- **What a step of a worker does** is as the judge says. -/
theorem Works.moves (h : w.Works i k v) (hk : w.workers[i]? = some k) (hg : w.Grants j known k) :
    ∃ k' verdict, v.workers = w.workers.set i k' ∧ Moves j known k k' (w.departures i) verdict := by
  have hover := hg.hover
  have hcalm := hg.calm
  cases h
  case leaves hisOver =>
    rw [hover] at hisOver
    cases hisOver
  case breaks hstep =>
    obtain ⟨item, call, hphase, -, hstep⟩ | ⟨batch, call, next, hphase, hstep⟩ := hstep
    · exact (settles_of_embedding hcalm.sure hphase hstep).elim
    · cases gives_of_writing hcalm.sure hphase hstep
  case flushes hphase _ hdue | drains hphase _ _ _ _ _ =>
    rw [departures_of_idle hk hover hphase]
    exact ⟨_, [], rfl, .ofFlush hcalm _ (by simp [hphase, Phase.batch])
      (by simp [hphase, Phase.inHand, Next.inHand])⟩
  case interrupts hphase _ hdue =>
    rw [departures_of_due hk hover hphase hdue]
    exact ⟨_, [], rfl, .ofFlush hcalm _ (by simp [hphase, Phase.batch])
      (by simp [hphase, Phase.inHand, Next.inHand])⟩
  case takes hphase _ hdue hqueue =>
    rw [departures_of_idle hk hover hphase]
    refine ⟨_, [], rfl, .ofQuiet hcalm ?_ ?_ rfl⟩
    · simp [Worker.ahead, hphase, hqueue, Phase.inHand]
    · simp [Worker.shelf, hphase, Phase.batch]
  case asks hphase _ hdue hstep | rests hphase _ hdue hstep =>
    rw [departures_of_embedding hk hover hphase hdue, hstep]
    refine ⟨_, [], rfl, .ofQuiet hcalm ?_ ?_ rfl⟩
    · simp [Worker.ahead, hphase, Phase.inHand]
    · simp [Worker.shelf, hphase, Phase.batch]
  case fails item call f hphase _ hdue hstep =>
    obtain ⟨hfate, hnotes⟩ := failed_of_grants hg hphase hstep
    rw [departures_of_embedding hk hover hphase hdue, hstep]
    refine ⟨_, _, rfl, .ofHand (by decide) hfate ?_ ?_ hnotes⟩
    · simp [Worker.ahead, hphase, Phase.inHand]
    · simp [Worker.shelf, hphase, Phase.batch]
  case suppresses item call x hphase _ hdue hstep hdecision =>
    obtain ⟨hfate, hnotes⟩ := considered_of_grants hg hphase hstep
    rw [departures_of_embedding hk hover hphase hdue, hstep]
    simp only [hdecision] at hfate ⊢
    refine ⟨_, _, rfl, .ofHand (by decide) hfate ?_ ?_ hnotes⟩
    · simp [Worker.ahead, hphase, Phase.inHand]
    · simp [Worker.shelf, hphase, Phase.batch]
  case collects item call x hphase _ hdue hstep hdecision hroom =>
    obtain ⟨hfate, hnotes⟩ := considered_of_grants hg hphase hstep
    rw [departures_of_embedding hk hover hphase hdue, hstep]
    simp only [hdecision] at hfate ⊢
    refine ⟨_, _, rfl, .ofCollected hfate ?_ ?_ hnotes⟩
    · simp [Worker.ahead, Worker.collect, hphase, Phase.inHand]
    · simp [Worker.shelf, Worker.collect, hphase, Phase.batch, Accumulator.push, itemOf]
  case fills item call x hphase _ hdue hstep hdecision hfull =>
    obtain ⟨hfate, hnotes⟩ := considered_of_grants hg hphase hstep
    rw [departures_of_embedding hk hover hphase hdue, hstep]
    simp only [hdecision] at hfate ⊢
    refine ⟨_, _, rfl, .ofCollected hfate ?_ ?_ ?_⟩
    · rw [ahead_flush]
      simp [Worker.ahead, Worker.collect, hphase, Phase.inHand, Next.inHand]
    · rw [Worker.shelf_flush]
      simp [Worker.shelf, Worker.collect, hphase, Phase.batch, Accumulator.push, itemOf]
    · rw [Worker.dedup_flush]
      exact hnotes
  case writes hphase _ hstep | pauses hphase _ hstep =>
    rw [departures_of_writing hk hover hphase, hstep]
    refine ⟨_, [], rfl, .ofQuiet hcalm ?_ ?_ rfl⟩
    · simp [Worker.ahead, hphase, Phase.inHand]
    · simp [Worker.shelf, hphase, Phase.batch]
  case stores batch call next hphase _ hstep =>
    rw [departures_of_writing hk hover hphase, hstep]
    refine ⟨_, [], rfl, .ofStored hcalm _ ?_ ?_ ?_⟩
    · rw [ahead_proceed]
      simp [Worker.ahead, hphase, Phase.inHand]
    · rw [Worker.shelf_proceed]
      simp [Worker.shelf, hphase, Phase.batch]
    · rw [Worker.dedup_proceed]
      exact Deduplicator.expire_of_isYoung hcalm.steady hg.young
  case drops hphase _ hstep =>
    cases gives_of_writing hcalm.sure hphase hstep

/-! ### The entries of a source -/

/-- The worker that the entries of a source belong to. -/
def homeOf (w : World) (source : String) : Nat :=
  workerOf source w.workers.length

/-- Where the entries of a source are: those in `done` have had their verdicts, and what became of
them is as the judge says; the others are at hand or in the queue. -/
structure Judged (w : World) (j : Judge) (l : Ledger) (arrived : List Item) (source : String)
    (done : List Item) : Prop where
  arrived : arrived.filter (Item.isFrom source) =
    done ++ (w.part Worker.ahead (w.homeOf source)).filter (Item.isFrom source)
  stored : (l.met .stored ++ w.part Worker.shelf (w.homeOf source)).filter (Item.isFrom source) =
    (j.fates done).met .stored
  left : ∀ f, f = .duplicate ∨ f = .failed →
    (l.met f).filter (Item.isFrom source) = (j.fates done).met f
  recalled : ∀ k, w.workers[w.homeOf source]? = some k → k.dedup.vectors source = j.past done

variable {l gone verdict : Ledger} {arrived done : List Item} {source : String}

/-- A verdict on an entry of a source is the next one in the order of its entries. -/
private theorem fates_of_moves (hm : Moves j known k k' gone verdict)
    (hrecalled : k.dedup.vectors source = j.past done) :
    j.fates (done ++ verdict.items.filter (Item.isFrom source)) =
        j.fates done ++ verdict.filter (fun p => p.1.isFrom source) ∧
      k'.dedup.vectors source = j.past (done ++ verdict.items.filter (Item.isFrom source)) := by
  rcases hm.judged with ⟨rfl, hvectors⟩ | ⟨x, rfl, hvectors⟩
  · simp [hvectors, hrecalled]
  · rw [hvectors]
    cases hx : x.isFrom source with
    | true =>
      obtain rfl : x.entry.source = source := by simpa [Item.isFrom] using hx
      simp [Ledger.items, hx, hrecalled, Judge.fates_append_singleton,
        Judge.past_append_singleton]
    | false =>
      have hsource : x.entry.source ≠ source := by simpa [Item.isFrom] using hx
      simp [Ledger.items, hx, hsource.symm, hrecalled]

/-- A step of the worker that the source belongs to. -/
private theorem Judged.moves_home (hw : w.Judged j l arrived source done)
    (hk : w.workers[w.homeOf source]? = some k)
    (hv : v.workers = w.workers.set (w.homeOf source) k')
    (hm : Moves j known k k' gone verdict) :
    v.Judged j (l ++ gone) arrived source
      (done ++ verdict.items.filter (Item.isFrom source)) := by
  have hhome : v.homeOf source = w.homeOf source := by rw [homeOf, homeOf, hv, List.length_set]
  have harrived := hw.arrived
  have hstored := hw.stored
  rw [part_eq _ hk] at harrived hstored
  obtain ⟨hfates, hrecalled⟩ := fates_of_moves hm (hw.recalled k hk)
  have hmet : ∀ f, Ledger.met (verdict.filter fun p => p.1.isFrom source) f =
      (verdict.met f).filter (Item.isFrom source) := fun f => by
    simp [Ledger.met, List.filter_map, List.filter_filter, Bool.and_comm, Function.comp_def]
  refine ⟨?_, ?_, fun f hf => ?_, fun k'' hk'' => ?_⟩
  · rw [hhome, part_set _ hk hv, if_pos rfl, harrived, hm.ahead, List.filter_append,
      List.append_assoc]
  · rw [hhome, part_set _ hk hv, if_pos rfl, Ledger.met_append, List.append_assoc,
      hm.stored, ← List.append_assoc, List.filter_append, hstored, hfates, Ledger.met_append,
      hmet]
  · rw [Ledger.met_append, List.filter_append, hw.left f hf, hm.left f hf, hfates,
      Ledger.met_append, hmet]
  · rw [hhome, hv] at hk''
    rw [← eq_of_getElem?_set hk hk'', hrecalled]

/-- A step of another worker, which holds no entry of the source. -/
private theorem Judged.moves_other (hw : w.Judged j l arrived source done)
    (hi : w.homeOf source ≠ i) (hnone : k.items.filter (Item.isFrom source) = [])
    (hk : w.workers[i]? = some k) (hv : v.workers = w.workers.set i k')
    (hm : Moves j known k k' gone verdict) :
    v.Judged j (l ++ gone) arrived source
      (done ++ verdict.items.filter (Item.isFrom source)) := by
  have hhome : v.homeOf source = w.homeOf source := by rw [homeOf, homeOf, hv, List.length_set]
  have hother : ∀ xs : List Item, xs ⊆ k.items → xs.filter (Item.isFrom source) = [] := by
    rw [List.filter_eq_nil_iff] at hnone
    exact fun xs hxs => List.filter_eq_nil_iff.mpr fun x hx => hnone x (hxs hx)
  have hverdict : verdict.items ⊆ k.items := fun x hx =>
    k.ahead_sublist.subset (hm.ahead ▸ List.mem_append_left _ hx)
  have hmet : ∀ f, (verdict.met f).filter (Item.isFrom source) = [] := fun f =>
    hother _ fun x hx => hverdict ((Ledger.met_sublist _ f).subset hx)
  have hstored : (gone.met .stored).filter (Item.isFrom source) = [] := by
    refine hother _ fun x hx => ?_
    have hmem := hm.stored ▸ List.mem_append_left k'.shelf hx
    rcases List.mem_append.mp hmem with hmem | hmem
    · exact k.shelf_subset hmem
    · exact hverdict ((Ledger.met_sublist _ _).subset hmem)
  rw [hother _ hverdict, List.append_nil]
  refine ⟨?_, ?_, fun f hf => ?_, fun k'' hk'' => ?_⟩
  · rw [hhome, part_set _ hk hv, if_neg hi]
    exact hw.arrived
  · rw [hhome, part_set _ hk hv, if_neg hi, Ledger.met_append, List.append_assoc,
      List.filter_append, List.filter_append, hstored, List.nil_append, ← List.filter_append]
    exact hw.stored
  · rw [Ledger.met_append, List.filter_append, hm.left f hf, hmet f, List.append_nil]
    exact hw.left f hf
  · rw [hhome, hv, List.getElem?_set_ne (Ne.symm hi)] at hk''
    exact hw.recalled k'' hk''

theorem Judged.moves (hw : w.Judged j l arrived source done)
    (hrouted : ∀ x ∈ k.items, w.home x = i) (hk : w.workers[i]? = some k)
    (hv : v.workers = w.workers.set i k') (hm : Moves j known k k' gone verdict) :
    v.Judged j (l ++ gone) arrived source
      (done ++ verdict.items.filter (Item.isFrom source)) := by
  by_cases hi : w.homeOf source = i
  · subst hi
    exact hw.moves_home hk hv hm
  · refine hw.moves_other hi (List.filter_eq_nil_iff.mpr fun x hx hsource => hi ?_) hk hv hm
    rw [← hrouted x hx, home, homeOf, show x.entry.source = source by
      simpa [Item.isFrom] using hsource]

theorem Judged.arrives {e : Entry} (hw : w.Judged j l arrived source done)
    (h : w.Arrives v i k e) : v.Judged j l (arrived ++ [⟨w.entered, e⟩]) source done := by
  have hhome : v.homeOf source = w.homeOf source := by
    rw [homeOf, homeOf, h.workers, List.length_set]
  have harrived := hw.arrived
  have hstored := hw.stored
  refine ⟨?_, ?_, hw.left, fun k' hk' => ?_⟩
  · rw [hhome, part_set _ h.worker h.workers, List.filter_append, harrived, List.append_assoc]
    split
    · rename_i hi
      rw [Worker.ahead_enqueue, List.filter_append, hi, part_eq _ h.worker]
    · rename_i hi
      have hother : (⟨w.entered, e⟩ : Item).isFrom source = false := by
        refine beq_eq_false_iff_ne.mpr fun hsource => hi ?_
        rw [h.home, homeOf, ← hsource]
      rw [List.filter_cons, hother]
      simp
  · rw [hhome, part_set _ h.worker h.workers]
    split
    · rename_i hi
      rw [hi, part_eq _ h.worker] at hstored
      exact hstored
    · exact hstored
  · rw [hhome, h.workers] at hk'
    by_cases hi : i = w.homeOf source
    · rw [← hi] at hk'
      obtain rfl := eq_of_getElem?_set h.worker hk'
      exact hw.recalled k (hi ▸ h.worker)
    · rw [List.getElem?_set_ne hi] at hk'
      exact hw.recalled k' hk'

theorem Judged.still (hw : w.Judged j l arrived source done) (h : w.Still v) :
    v.Judged j l arrived source done := by
  have hhome : v.homeOf source = w.homeOf source := by rw [homeOf, homeOf, h.workers]
  refine ⟨?_, ?_, hw.left, ?_⟩
  · rw [hhome, h.part]
    exact hw.arrived
  · rw [hhome, h.part]
    exact hw.stored
  · rw [hhome, h.workers]
    exact hw.recalled

/-- Where nothing is held, no part of a worker holds anything. -/
theorem part_eq_nil {f : Worker → List Item} (hf : ∀ k, f k ⊆ k.items) (h : w.held = [])
    (i : Nat) : w.part f i = [] := by
  refine List.eq_nil_iff_forall_not_mem.mpr fun x hx => ?_
  have hheld := mem_held_of_part hf hx
  rw [h] at hheld
  cases hheld

/-! ### Calm runs -/

/-- All workers are calm. -/
def IsCalm (j : Judge) (known : List String) (w : World) : Prop :=
  ∀ k ∈ w.workers, k.IsCalm j known

/-- The judge of a pipeline whose provider has the outcome of a text in its hand. -/
def judge (outcome : String → Except Fault Embedding) (w : World) : Judge :=
  ⟨outcome, w.client.dimension,
    { w.settings.dedup with maxAge := w.settings.dedup.maxAge * Worker.nanosPerMilli }⟩

theorem isCalm_start (outcome : String → Except Fault Embedding) (known : List String)
    (s : Settings) (c : Client) (b : Backend) :
    (start s c b).IsCalm ((start s c b).judge outcome) known := by
  intro k hk
  rw [start, List.mem_replicate] at hk
  rw [hk.2]
  exact ⟨trivial, Deduplicator.isSteady_empty _ _, rfl⟩

theorem judged_start (j : Judge) (source : String) (s : Settings) (c : Client) (b : Backend) :
    (start s c b).Judged j [] [] source [] := by
  refine ⟨?_, ?_, fun f _ => rfl, fun k hk => ?_⟩
  · rw [part_start s c b rfl]
    rfl
  · rw [part_start s c b rfl]
    rfl
  · obtain rfl := List.eq_of_mem_replicate (List.mem_of_getElem? hk)
    rfl

/-- A deadline that has passed has passed for good. -/
theorem isOver_of_apply {a : Action} (h : w.apply a = some v) (hover : w.isOver = true) :
    v.isOver = true := by
  obtain ⟨d, hd, hle⟩ := exists_le_of_isOver hover
  have hdeadline : v.deadline = some d := by
    obtain ⟨i, k, -, -, hworks⟩ | ⟨-, hoccurs⟩ := apply_cases h
    · rw [hworks.frame.deadline, hd]
    · rcases hoccurs.deadline with heq | ⟨hnone, -⟩
      · rw [heq, hd]
      · rw [hd] at hnone
        cases hnone
  rw [isOver, hdeadline]
  exact decide_eq_true (Nat.le_trans hle (now_le_of_apply h))

/-- All workers are calm, and the entries of each source have the verdicts of the judge. -/
structure AsJudged (w : World) (j : Judge) (known : List String) (l : Ledger)
    (arrived : List Item) : Prop where
  calm : w.IsCalm j known
  judged : ∀ source, ∃ done, w.Judged j l arrived source done

theorem AsJudged.works (hw : w.AsJudged j known l arrived) (h : w.Works i k v)
    (hk : w.workers[i]? = some k) (hg : w.Grants j known k)
    (hrouted : ∀ x ∈ k.items, w.home x = i) :
    v.AsJudged j known (l ++ w.departures i) arrived := by
  obtain ⟨k', verdict, hv, hmoves⟩ := h.moves hk hg
  obtain ⟨k'', hv', hsure⟩ := h.isSure hg.reliable hg.calm.sure
  obtain rfl : k' = k'' := by
    refine eq_of_getElem?_set hk ?_
    rw [← hv, hv', getElem?_set_worker hk]
  refine ⟨fun l hl => ?_, fun source => ?_⟩
  · rw [hv] at hl
    rcases List.mem_or_eq_of_mem_set hl with hl | rfl
    · exact hw.calm l hl
    · exact ⟨hsure, hmoves.steady, hmoves.settings⟩
  · obtain ⟨done, hdone⟩ := hw.judged source
    exact ⟨_, hdone.moves hrouted hk hv hmoves⟩

theorem AsJudged.arrives {e : Entry} (hw : w.AsJudged j known l arrived) (h : w.Arrives v i k e) :
    v.AsJudged j known l (arrived ++ [⟨w.entered, e⟩]) := by
  refine ⟨fun l hl => ?_, fun source => ?_⟩
  · rw [h.workers] at hl
    rcases List.mem_or_eq_of_mem_set hl with hl | rfl
    · exact hw.calm l hl
    · have hk := hw.calm k (List.mem_of_getElem? h.worker)
      exact ⟨hk.sure, hk.steady, hk.settings⟩
  · obtain ⟨done, hdone⟩ := hw.judged source
    exact ⟨done, hdone.arrives h⟩

theorem AsJudged.still (hw : w.AsJudged j known l arrived) (h : w.Still v) :
    v.AsJudged j known l arrived := by
  refine ⟨fun k hk => hw.calm k (h.workers ▸ hk), fun source => ?_⟩
  obtain ⟨done, hdone⟩ := hw.judged source
  exact ⟨done, hdone.still h⟩

end World

namespace Run

/-- Something holds whenever a step of a run is taken. -/
def Always {w : World} (P : World → Prop) : {v : World} → Run w v → Prop
  | _, .refl => True
  | _, .step (v := v) r _ _ => r.Always P ∧ P v

variable {s : Settings} {c : Client} {b : Backend} {w : World} {known : List String}
  {outcome : String → Except Fault Embedding}

/-- In a run all is given that it takes. -/
private theorem grants (r : Run (World.start s c b) w) {i : Nat} {k : Worker}
    (hk : w.workers[i]? = some k) (hb : b.IsReliable c.timeout outcome)
    (hroom : known.length ≤ s.dedup.maxStreams)
    (hknown : ∀ x ∈ r.arrivals, x.entry.source ∈ known)
    (hcalm : w.IsCalm ((World.start s c b).judge outcome) known)
    (hyoung : ∀ k ∈ w.workers, k.dedup.IsYoung w.fineNow) (hover : w.isOver = false) :
    w.Grants ((World.start s c b).judge outcome) known k where
  reliable := by
    rw [r.fixed.backend, r.fixed.client]
    exact hb
  dimension := by
    rw [r.fixed.client]
    rfl
  room := hroom
  calm := hcalm k (List.mem_of_getElem? hk)
  young := hyoung k (List.mem_of_getElem? hk)
  known x hx := by
    refine hknown x (r.mem_arrivals.mpr (r.balanced.custody.subset ?_))
    exact List.mem_append_right _ (World.mem_held hk (k.ahead_sublist.subset hx))
  hover := hover

/-- **All verdicts are those of the judge**, for each source. -/
theorem asJudged (r : Run (World.start s c b) w) (hb : b.IsReliable c.timeout outcome)
    (hroom : known.length ≤ s.dedup.maxStreams)
    (hknown : ∀ x ∈ r.arrivals, x.entry.source ∈ known)
    (hyoung : r.Always fun v => ∀ k ∈ v.workers, k.dedup.IsYoung v.fineNow)
    (hover : w.isOver = false) :
    w.AsJudged ((World.start s c b).judge outcome) known r.ledger r.arrivals := by
  induction r with
  | refl =>
    exact ⟨World.isCalm_start _ _ _ _ _, fun source => ⟨[], World.judged_start _ _ _ _ _⟩⟩
  | @step v u r a h ih =>
    have hbefore : v.isOver = false := by
      cases hv : v.isOver with
      | false => rfl
      | true => rw [World.isOver_of_apply h hv] at hover; cases hover
    have hknown' : ∀ x ∈ r.arrivals, x.entry.source ∈ known := fun x hx =>
      hknown x (List.mem_append_left _ hx)
    have hw := ih hknown' hyoung.1 hbefore
    rw [ledger, arrivals]
    obtain ⟨i, k, rfl, hk, hworks⟩ | ⟨hother, hoccurs⟩ := World.apply_cases h
    · rw [World.arriving_eq_nil hworks.accepted, List.append_nil]
      refine hw.works hworks hk (r.grants hk hb hroom hknown' hw.calm hyoung.2 hbefore) ?_
      exact fun x hx => r.ordered.routed i x (by rwa [World.part_eq Worker.items hk])
    · rw [v.leaving_eq_nil hother, List.append_nil]
      rcases hoccurs.arrives_or_still r.balanced.orderly with ⟨i, k, e, harrives⟩ | hstill
      · rw [r.balanced.orderly.arriving_of_arrives harrives]
        exact hw.arrives harrives
      · rw [World.arriving_eq_nil hstill.accepted, List.append_nil]
        exact hw.still hstill

/-- **The fates of the entries of a source** at the end of a run are those that the judge tells
from the entries. -/
theorem fates (r : Run (World.start s c b) w)
    (hb : b.IsReliable c.timeout outcome) (hroom : known.length ≤ s.dedup.maxStreams)
    (hknown : ∀ x ∈ r.arrivals, x.entry.source ∈ known)
    (hyoung : r.Always fun v => ∀ k ∈ v.workers, k.dedup.IsYoung v.fineNow)
    (hover : w.isOver = false) (hdone : w.isDone = true) (source : String) {f : Fate}
    (hf : f = .stored ∨ f = .duplicate ∨ f = .failed) :
    (r.ledger.met f).filter (Item.isFrom source) =
      (((World.start s c b).judge outcome).fates
        (r.arrivals.filter (Item.isFrom source))).met f := by
  obtain ⟨done, hjudged⟩ := (r.asJudged hb hroom hknown hyoung hover).judged source
  have hheld := r.balanced.orderly.held_eq_nil hdone
  have hahead := World.part_eq_nil (fun k => k.ahead_sublist.subset) hheld (w.homeOf source)
  have hshelf := World.part_eq_nil (fun k => k.shelf_subset) hheld (w.homeOf source)
  have harrived := hjudged.arrived
  rw [hahead, List.filter_nil, List.append_nil] at harrived
  rw [harrived]
  rcases hf with rfl | hf
  · rw [← hjudged.stored, hshelf, List.append_nil]
  · exact hjudged.left f hf

end Run

end LogIntake.Pipeline
