import LogIntake.Proofs.Pipeline.Capacity
import LogIntake.Proofs.Pipeline.Conservation
import LogIntake.Proofs.Service.Life
import LogIntake.Proofs.Service.Opening

/-!
# The store is closed last

An instance that has started asks the provider for embeddings of entries, and the store to write
batches and for its health, in any order. It closes the store only when all workers are gone, so
whatever a worker writes goes through a handle that is open, also if the listener has failed.

`Instance.Keeps` is what every step of an instance keeps (`Reaches.keeps`). Workers that are gone
stay so, and write nothing (`World.still_of_isDone`): nothing would be written through a handle that
is closed even if more could happen to an instance that has stopped. `inTurn` puts starts and
instances together.
-/

namespace LogIntake

/-! ### Workers that are gone -/

namespace Pipeline

namespace World

variable {w v : World} {a : Action}

theorem isDone_iff : w.isDone = true ↔ ∀ k ∈ w.workers, k.isGone = true :=
  List.all_eq_true

theorem isDone_abort (w : World) : (Schedule.abort w).isDone = true := by
  refine isDone_iff.mpr fun k hk => ?_
  obtain ⟨l, -, rfl⟩ := List.mem_map.mp hk
  split
  · assumption
  · rfl

/-- When all workers are gone, what happens lets none of them come back, and nothing is written. -/
theorem still_of_apply (hdone : w.isDone = true) (h : w.apply a = some v) :
    v.isDone = true ∧ v.writes = w.writes := by
  rw [isDone_iff] at hdone ⊢
  obtain ⟨i, k, -, hk, hworks⟩ | ⟨-, hoccurs⟩ := apply_cases h
  · have hgone := hdone k (List.mem_of_getElem? hk)
    rw [hworks.isGone] at hgone
    cases hgone
  · refine ⟨fun l hl => ?_, hoccurs.writes_eq⟩
    obtain ⟨k, hk, queue, rfl⟩ := hoccurs.workers.2 l hl
    exact hdone k hk

/-- Nothing is written any more when all workers are gone. -/
theorem still_of_isDone (hdone : w.isDone = true) (h : Reaches w v) : v.writes = w.writes := by
  have hkept : v.isDone = true ∧ v.writes = w.writes := by
    induction h with
    | refl => exact ⟨hdone, rfl⟩
    | step a _ h ih =>
      obtain ⟨hdone, hwrites⟩ := ih
      obtain ⟨hdone', hwrites'⟩ := still_of_apply hdone h
      exact ⟨hdone', hwrites'.trans hwrites⟩
  exact hkept.2

/-! ### What is asked in a step -/

/-- What was asked and written before stays at the end of what is asked and written later. -/
theorem grows_of_apply (h : w.apply a = some v) :
    (∃ new, v.asked = new ++ w.asked) ∧ ∃ new, v.writes = new ++ w.writes := by
  obtain ⟨i, k, -, hk, hworks⟩ | ⟨-, hoccurs⟩ := apply_cases h
  · refine ⟨?_, ?_⟩
    · obtain hsame | ⟨item, call, -, hasked⟩ := hworks.asked
      · exact ⟨[], hsame⟩
      · exact ⟨[_], hasked⟩
    · obtain hsame | ⟨x, -, hwrites⟩ := hworks.writes_eq
      · exact ⟨[], hsame⟩
      · exact ⟨[x], hwrites⟩
  · exact ⟨⟨[], by cases hoccurs <;> rfl⟩, [], hoccurs.writes_eq⟩

/-! ### Balance beside the steps of the pipeline -/

variable {l : Ledger}

/-- Neither a health check nor a deadline concerns an entry. -/
theorem Balanced.check (hw : w.Balanced l) (n : Nat) : { w with checks := n }.Balanced l :=
  hw.still ⟨rfl, rfl, rfl, rfl, rfl, rfl⟩ ⟨hw.orderly.routed, hw.orderly.numbered,
    fun i k hk hclosing =>
      have hclosed := hw.orderly.closing i k hk hclosing
      ⟨hclosed.queue, hclosed.pending, hclosed.offers, hclosed.accepting⟩⟩

theorem Balanced.stop (hw : w.Balanced l) : w.stop.Balanced l :=
  hw.still ⟨rfl, rfl, rfl, rfl, rfl, rfl⟩ ⟨hw.orderly.routed, hw.orderly.numbered,
    fun i k hk hclosing =>
      have hclosed := hw.orderly.closing i k hk hclosing
      ⟨hclosed.queue, hclosed.pending, hclosed.offers, fun _ => rfl⟩⟩

end World

end Pipeline

namespace Service

open Pipeline (World Action Ledger)

/-! ### What an instance asks -/

namespace Outgoing

/-- The text that is to be embedded. -/
def text? : Outgoing → Option String
  | .embed text => some text
  | .store _ => none

/-- The request to write something. -/
def write? : Outgoing → Option Store.Request
  | .store (.write collection points) => some (.write collection points)
  | .store _ => none
  | .embed _ => none

end Outgoing

/-- What is asked of others, last one first, while a pipeline comes to a world: the texts that were
embedded, the batches that were written, each of them through a handle for the store that is open,
and the store's health now and then. -/
structure Mix (store : Config.Store) (w : World) (later : List Outgoing) : Prop where
  texts : later.filterMap Outgoing.text? = w.askedTexts
  writes : later.filterMap Outgoing.write? =
    w.writes.filterMap fun x => (Store.Handle.insert ⟨store, false⟩ x.batch).request?
  others : ∀ q ∈ later, q.text? = none → q.write? = none → q = .store .health

variable {store : Config.Store} {w v : World} {later : List Outgoing}

theorem Mix.check (h : Mix store w later) (n : Nat) :
    Mix store { w with checks := n } (.store .health :: later) where
  texts := h.texts
  writes := h.writes
  others := List.forall_mem_cons.mpr ⟨fun _ _ => rfl, h.others⟩

namespace Instance

theorem gained_append {α : Type} (new before : List α) : gained before (new ++ before) = new := by
  rw [gained, List.length_append, Nat.add_sub_cancel, List.take_left]

/-- What is asked in a step that embeds and writes something. -/
theorem asked_eq {handle : Store.Handle} {embedded : List Pipeline.Asked}
    {written : List Pipeline.Write} (hasked : v.asked = embedded ++ w.asked)
    (hwrites : v.writes = written ++ w.writes) : asked handle w v =
      embedded.map (fun a => .embed a.item.entry.message) ++
        written.filterMap fun x => (handle.insert x.batch).request?.map .store := by
  rw [asked, hasked, hwrites, gained_append, gained_append, List.filterMap_eq_flatMap_toList]

/-- A batch is written by a request for just that, unless it is empty. -/
theorem write?_insert (handle : Store.Handle) (batch : Batch) :
    ((handle.insert batch).request?.map Outgoing.store).bind Outgoing.write? =
      (handle.insert batch).request? := by
  cases hq : (handle.insert batch).request? with
  | none => rfl
  | some q =>
    obtain rfl := eq_write_of_insert hq
    rfl

theorem text?_insert (handle : Store.Handle) (batch : Batch) :
    ((handle.insert batch).request?.map Outgoing.store).bind Outgoing.text? = none := by
  cases (handle.insert batch).request? <;> rfl

end Instance

/-- What a step of the pipeline asks through an open handle continues the mix. -/
theorem Mix.apply (h : Mix store w later) {a : Action} (hstep : w.apply a = some v) :
    Mix store v (Instance.asked ⟨store, false⟩ w v ++ later) := by
  obtain ⟨⟨embedded, hasked⟩, written, hwrites⟩ := World.grows_of_apply hstep
  have htexts : v.askedTexts = embedded.map (·.item.entry.message) ++ w.askedTexts := by
    rw [World.askedTexts, hasked, List.map_append, World.askedTexts]
  have hnotext := fun x : Pipeline.Write => Instance.text?_insert ⟨store, false⟩ x.batch
  have hwriting := fun x : Pipeline.Write => Instance.write?_insert ⟨store, false⟩ x.batch
  rw [Instance.asked_eq hasked hwrites]
  refine ⟨?_, ?_, fun q hq htext hwrite => ?_⟩
  · rw [List.filterMap_append, List.filterMap_append, h.texts, htexts, List.filterMap_filterMap,
      List.filterMap_congr fun x _ => hnotext x, List.filterMap_map]
    simp [Function.comp_def, Outgoing.text?]
  · rw [List.filterMap_append, List.filterMap_append, h.writes, List.filterMap_filterMap,
      List.filterMap_congr fun x _ => hwriting x, hwrites, List.filterMap_append,
      List.filterMap_map]
    simp [Function.comp_def, Outgoing.write?]
  · rcases List.mem_append.mp hq with hnew | hold
    · rcases List.mem_append.mp hnew with hembed | hinsert
      · obtain ⟨a, -, rfl⟩ := List.mem_map.mp hembed
        cases htext
      · obtain ⟨x, -, hx⟩ := List.mem_filterMap.mp hinsert
        have hrequest := hwriting x
        rw [hx, Option.bind_some, hwrite] at hrequest
        rw [← hrequest] at hx
        cases hx
    · exact h.others q hold htext hwrite

/-! ### What every step keeps -/

namespace Instance

variable {c : Config.Service} {before : List Outgoing} {i j k : Instance}

/-- An instance has asked for nothing but embeddings of entries, writes and health since it started,
and its handle is open until all workers are gone. -/
structure Keeps (c : Config.Service) (before : List Outgoing) (j : Instance) : Prop where
  handle : j.handle = ⟨c.store, decide (j.activity = .stopped)⟩
  requests : ∃ later, j.requests = later ++ before ∧ Mix c.store j.world later
  balanced : j.activity ≠ .stopped → ∃ l, j.world.Balanced l
  asked : ∀ a ∈ j.world.asked, a.item ∈ j.world.accepted
  written : ∀ x ∈ j.world.writes, ∀ p ∈ x.batch, Pipeline.itemOf p ∈ j.world.accepted
  done : j.activity = .stopped → j.world.isDone = true
  failure : ∀ f, j.failure = some f → j.activity ≠ .serving ∧ ∃ detail, f = .server detail

theorem Keeps.act (hj : j.Keeps c before) (hactive : j.activity ≠ .stopped) {a : Action}
    (h : j.act? a = some k) : k.Keeps c before := by
  obtain ⟨w, hw, rfl⟩ := exists_of_act? h
  obtain ⟨l, hl⟩ := hj.balanced hactive
  obtain ⟨later, hlater, hmix⟩ := hj.requests
  have hbalanced := hl.apply hw
  have hhandle : j.handle = ⟨c.store, false⟩ := by rw [hj.handle, decide_eq_false hactive]
  refine
    { handle := hj.handle
      requests := ⟨Instance.asked j.handle j.world w ++ later, ?_, ?_⟩
      balanced := fun _ => ⟨_, hbalanced⟩
      asked := hbalanced.asked
      written := hbalanced.written
      done := fun hstopped => absurd hstopped hactive
      failure := hj.failure }
  · rw [hlater, List.append_assoc]
  · rw [hhandle]
    exact hmix.apply hw

theorem Keeps.check (hj : j.Keeps c before) (hactive : j.activity ≠ .stopped) :
    j.check.Keeps c before := by
  obtain ⟨l, hl⟩ := hj.balanced hactive
  obtain ⟨later, hlater, hmix⟩ := hj.requests
  exact
    { handle := hj.handle
      requests := ⟨.store .health :: later, congrArg _ hlater, hmix.check _⟩
      balanced := fun _ => ⟨l, hl.check _⟩
      asked := hj.asked
      written := hj.written
      done := hj.done
      failure := hj.failure }

theorem Keeps.drain (hj : j.Keeps c before) (failure : Option String)
    (hserving : j.activity = .serving) : (j.drain failure).Keeps c before := by
  obtain ⟨l, hl⟩ := hj.balanced (by simp [hserving])
  obtain ⟨later, hlater, hmix⟩ := hj.requests
  refine
    { handle := ?_
      requests := ⟨later, hlater, hmix.texts, hmix.writes, hmix.others⟩
      balanced := fun _ => ⟨l, hl.stop⟩
      asked := hj.asked
      written := hj.written
      done := nofun
      failure := fun f hf => ⟨nofun, ?_⟩ }
  · have hhandle := hj.handle
    rw [hserving] at hhandle
    exact hhandle
  · obtain ⟨detail, -, rfl⟩ := Option.map_eq_some_iff.mp hf
    exact ⟨detail, rfl⟩

/-- An instance ends with all workers gone. -/
theorem isDone_of_finish? (h : j.finish? = some k) : k.world.isDone = true := by
  rw [finish?] at h
  split at h
  · rename_i hdone
    obtain rfl := Option.some.inj h
    exact hdone
  · split at h
    · obtain rfl := Option.some.inj h
      exact World.isDone_abort j.world
    · cases h

theorem Keeps.finish (hj : j.Keeps c before) (h : j.finish? = some k) : k.Keeps c before := by
  have hdone := isDone_of_finish? h
  obtain ⟨later, hlater, hmix⟩ := hj.requests
  obtain ⟨w, hw, rfl⟩ := finish?_cases h
  -- Workers that are ended leave everything else as it is.
  have hsame : w.asked = j.world.asked ∧ w.writes = j.world.writes ∧
      w.accepted = j.world.accepted := by
    obtain rfl | rfl := hw <;> exact ⟨rfl, rfl, rfl⟩
  obtain ⟨hasked, hwrites, haccepted⟩ := hsame
  refine
    { handle := by rw [hj.handle]; rfl
      requests := ⟨later, hlater, ?_, by rw [hwrites]; exact hmix.writes, hmix.others⟩
      balanced := fun hactive => absurd rfl hactive
      asked := by rw [hasked, haccepted]; exact hj.asked
      written := by rw [hwrites, haccepted]; exact hj.written
      done := fun _ => hdone
      failure := fun f hf => ⟨nofun, (hj.failure f hf).2⟩ }
  rw [World.askedTexts, hasked]
  exact hmix.texts

/-- **Every step keeps the order** of what is asked. -/
theorem Reaches.keeps (h : Reaches i j) (hi : i.Keeps c before) : j.Keeps c before := by
  induction h with
  | refl => exact hi
  | act a _ hactive _ h ih => exact ih.act hactive h
  | check _ hactive ih => exact ih.check hactive
  | drain failure _ hserving ih => exact ih.drain failure hserving
  | finish _ _ h ih => exact ih.finish h

/-- An instance that has just started has asked for nothing more than its start did. -/
theorem keeps_start {s : Surroundings} {r : Running} {asked : List Outgoing}
    (h : Started c s r asked) : (start r asked).Keeps c asked.reverse := by
  have hbalanced := World.balanced_start c.pipeline (clientOf c) s.backend
  exact
    { handle := h.handle
      requests := ⟨[], rfl, by
        rw [start, h.world]
        exact ⟨rfl, rfl, nofun⟩⟩
      balanced := fun _ => ⟨[], by rw [start, h.world]; exact hbalanced⟩
      asked := by rw [start, h.world]; exact hbalanced.asked
      written := by rw [start, h.world]; exact hbalanced.written
      done := nofun
      failure := nofun }

end Instance

/-! ### From the start to the end -/

/-- How an instance that has started goes on, where some requests, last one first, were made
before. -/
structure Serves (c : Config.Service) (before : List Outgoing) (j : Instance) : Prop where
  /-- All that it has asked since is the embedding of texts, the writing of batches, each of them
  through an open handle, and the store's health, in any order. -/
  requests : ∃ later, j.requests = later ++ before ∧ Mix c.store j.world later
  /-- The texts are those of accepted entries. -/
  embedded : ∀ a ∈ j.world.asked, a.item ∈ j.world.accepted
  /-- The batches consist of points of accepted entries. -/
  written : ∀ x ∈ j.world.writes, ∀ p ∈ x.batch, Pipeline.itemOf p ∈ j.world.accepted
  /-- The store is closed at the end, and not before. -/
  handle : j.handle = ⟨c.store, decide (j.activity = .stopped)⟩
  /-- All workers are gone by then, and nothing is written any more, whatever else may happen. -/
  closed : j.handle.isClosed = true → j.world.isDone = true ∧
    ∀ {v : World}, Pipeline.Reaches j.world v → v.writes = j.world.writes
  /-- The only failure left is that of the listener, which begins the end like any other stop. -/
  failure : ∀ f, j.failure = some f → j.activity ≠ .serving ∧ ∃ detail, f = .server detail

theorem Instance.Keeps.serves {c : Config.Service} {before : List Outgoing} {j : Instance}
    (hj : j.Keeps c before) : Serves c before j := by
  refine ⟨hj.requests, hj.asked, hj.written, hj.handle, fun hclosed => ?_, hj.failure⟩
  have hstopped : j.activity = .stopped := by
    rw [hj.handle] at hclosed
    exact of_decide_eq_true hclosed
  exact ⟨hj.done hstopped, World.still_of_isDone (hj.done hstopped)⟩

/-- **One thing after another**, in a start and what follows it. -/
structure InTurn (processors : Nat) (vars : Config.Variables) (s : Surroundings) (fuel : Nat)
    (t : Start) : Prop where
  /-- Where the settings cannot be loaded, nothing is asked. -/
  unset : ∀ e, Config.Service.ofVariables processors vars = .error e →
    t = .failed (.settings e) []
  /-- Otherwise the start goes as far as those that it depends on let it. -/
  opens : ∀ c, Config.Service.ofVariables processors vars = .ok c → Opens c s fuel t
  /-- What comes of the check of the provider's health makes no difference. -/
  unprobed : ∀ (delay : Nat) (e : Exchange),
    startWith processors vars { s with probe := .after delay e.health } fuel = t
  /-- What an instance goes on to do comes after the start. -/
  serves : ∀ c, Config.Service.ofVariables processors vars = .ok c → ∀ r,
    t.result = some (.ok r) → ∀ {j : Instance}, Instance.Reaches (.start r t.requests) j →
      Serves c t.requests.reverse j

/-- **Instances start and stop in turn**, in every environment and whatever the store and the
provider answer; the probe of the provider is answered after a delay with what an exchange comes
to. -/
theorem inTurn (processors : Nat) (vars : Config.Variables) (s : Surroundings) (fuel delay : Nat)
    (e : Exchange) : InTurn processors vars s fuel
      (startWith processors vars { s with probe := .after delay e.health } fuel) where
  unset f hf := by rw [startWith, hf]
  opens c hc := by
    rw [startWith, hc]
    exact opens e.health_ne_breaks
  unprobed delay' e' := startWith_eq_of_probe e'.health_ne_breaks e.health_ne_breaks
  serves c hc r hr j hj := by
    obtain ⟨c', hc', hstarted⟩ := started_of_startWith hr
    obtain rfl := Except.ok.inj (hc.symm.trans hc')
    exact (hj.keeps (Instance.keeps_start hstarted)).serves

end Service

end LogIntake
