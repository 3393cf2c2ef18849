import LogIntake.Proofs.Config.Variables
import LogIntake.Proofs.Pipeline.Lengths
import LogIntake.Proofs.Service.Life
import LogIntake.Proofs.Service.Starting

/-!
# One length from the environment to the store

The length of vectors is set once, in the environment, and three parts of an instance go by it: the
collection, the embedding client and the deduplicator. `oneLength` says that they agree for the
whole life of every instance that starts. The collection is created for that length or found to
have it before anything is embedded; the client lets no other vector through; so all vectors that
are compared or written have it, and a vector of another length only costs a failure. Whether an
entry is a near-duplicate is decided by the pairs that are compared, and by nothing else.

`Instance.IsUniform` is what every step of an instance keeps (`Reaches.isUniform`), and
`Life.embeddingFailures_eq` adds up the failures along a life.
-/

namespace LogIntake.Service

open Pipeline (World Action)

namespace Instance

variable {c : Config.Service} {i j k : Instance}

/-! ### What every step keeps -/

/-- An instance goes by its settings, all its vectors have the length that they say, and so has
every vector that it asked the store to write. -/
structure IsUniform (c : Config.Service) (j : Instance) : Prop where
  settings : j.handle.settings = c.store
  client : j.world.client = clientOf c
  world : j.world.IsUniform
  written : ∀ collection points, .store (.write collection points) ∈ j.requests →
    collection = c.store.collection ∧ ∀ p ∈ points, p.vector.length = c.embedder.dimension

theorem IsUniform.act {a : Action} (hj : j.IsUniform c) (h : j.act? a = some k) :
    k.IsUniform c := by
  obtain ⟨w, hw, rfl⟩ := exists_of_act? h
  have hclient : w.client = clientOf c := (World.fixed_of_apply hw).client.trans hj.client
  have hworld : w.IsUniform := hj.world.apply hw
  refine ⟨hj.settings, hclient, hworld, fun collection points hwrite => ?_⟩
  -- What is asked of the store in this step is a batch that the world has written.
  rcases List.mem_append.mp hwrite with hnew | hold
  · obtain ⟨x, hx, heq⟩ := exists_of_mem_asked hnew
    cases heq
    refine ⟨by rw [hj.settings], fun p hp => ?_⟩
    obtain ⟨y, hy, rfl⟩ := List.mem_map.mp hp
    have hlength := hworld.writes x hx y hy
    rw [hclient] at hlength
    exact hlength
  · exact hj.written collection points hold

theorem IsUniform.check (hj : j.IsUniform c) : j.check.IsUniform c := by
  refine ⟨hj.settings, hj.client, ⟨hj.world.workers, hj.world.writes⟩, fun name points hwrite => ?_⟩
  rcases List.mem_cons.mp hwrite with heq | hold
  · cases heq
  · exact hj.written name points hold

theorem IsUniform.drain (hj : j.IsUniform c) (failure : Option String) :
    (j.drain failure).IsUniform c :=
  ⟨hj.settings, hj.client, ⟨hj.world.workers, hj.world.writes⟩, hj.written⟩

theorem IsUniform.finish (hj : j.IsUniform c) (h : j.finish? = some k) : k.IsUniform c := by
  obtain ⟨w, rfl | rfl, rfl⟩ := finish?_cases h
  · exact ⟨hj.settings, hj.client, hj.world, hj.written⟩
  · exact ⟨hj.settings, hj.client, hj.world.abort, hj.written⟩

/-- **An instance stays uniform**, whatever happens to it. -/
theorem Reaches.isUniform (h : Reaches i j) (hi : i.IsUniform c) : j.IsUniform c := by
  induction h with
  | refl => exact hi
  | act a _ _ _ h ih => exact ih.act h
  | check _ _ ih => exact ih.check
  | drain failure _ _ ih => exact ih.drain failure
  | finish _ _ h ih => exact ih.finish h

/-- An instance that has just started has not written anything. -/
theorem isUniform_start {s : Surroundings} {r : Running} {asked : List Outgoing}
    (h : Started c s r asked) : (start r asked).IsUniform c where
  settings := by rw [start, h.handle]
  client := by
    rw [start, h.world]
    rfl
  world := by
    rw [start, h.world]
    exact World.isUniform_start _ _ _
  written collection points hwrite := by
    obtain ⟨checks, hasked⟩ := h.asked
    rw [start, List.mem_reverse, hasked, List.mem_append, List.mem_append] at hwrite
    -- Neither the health checks nor the talk about the collection nor the probe is a write.
    obtain (hhealth | htalk) | hprobe := hwrite
    · cases List.eq_of_mem_replicate hhealth
    · obtain ⟨q, hq, heq⟩ := List.mem_map.mp htalk
      cases heq
      exact absurd rfl (r.handle.asks_ensure.of_mem_requests [] _ hq collection points)
    · cases List.mem_singleton.mp hprobe

/-! ### Failures along a life -/

/-- The client of an instance stays the same. -/
theorem Reaches.client (h : Reaches i j) : j.world.client = i.world.client := by
  induction h with
  | refl => rfl
  | act a _ _ _ h ih =>
    obtain ⟨w, hw, rfl⟩ := exists_of_act? h
    exact (World.fixed_of_apply hw).client.trans ih
  | check _ _ ih => exact ih
  | drain _ _ _ ih => exact ih
  | finish _ _ h ih =>
    obtain ⟨w, rfl | rfl, rfl⟩ := finish?_cases h <;> exact ih

/-- Failures are counted for answers that are refused, once for each, and for nothing else. -/
theorem Life.embeddingFailures_eq (l : Life i j) :
    j.world.metrics.totals.embeddingFailures = i.world.metrics.totals.embeddingFailures +
      UInt64.ofNat ((l.log World.answering).countP fun x => i.world.client.refuses x.2) := by
  induction l with
  | refl => exact (UInt64.add_zero _).symm
  | act l a _ _ h ih =>
    obtain ⟨w, hw, rfl⟩ := exists_of_act? h
    rw [World.embeddingFailures_of_apply hw, ih, l.reaches.client, Life.log, List.countP_append,
      UInt64.ofNat_add, UInt64.add_assoc]
  | check _ _ ih | drain _ _ _ ih => exact ih
  | finish l _ h ih =>
    obtain ⟨w, rfl | rfl, rfl⟩ := finish?_cases h <;> exact ih

end Instance

/-! ### Agreement -/

/-- **One length of vectors** in the life of an instance that has started: the client's. -/
structure OneLength (vars : Config.Variables) (s : Surroundings) (r : Running)
    (asked : List Outgoing) {j : Instance} (l : Instance.Life (.start r asked) j) : Prop where
  /-- It is the one that the environment says. -/
  setting : vars.positiveOr "EMBEDDING_DIMENSION" Number.word64 1536 =
    .ok r.world.client.dimension
  /-- Before anything else was asked of the provider, the collection was created for vectors of
  this length, or the store said that it has such vectors. -/
  collection : ∃ checks talk, asked = List.replicate checks (.store .health) ++
    talk.map .store ++ [.embed Config.Embedder.healthText] ∧
      Store.Settled s.answer r.handle.settings.collection r.world.client.dimension talk
  /-- Every point that the store is asked to write goes to this collection, with a vector of this
  length. -/
  written : ∀ collection points, .store (.write collection points) ∈ j.requests →
    collection = r.handle.settings.collection ∧
      ∀ p ∈ points, p.vector.length = r.world.client.dimension
  /-- Whatever is compared has this length. -/
  compared : ∀ p ∈ l.log World.comparing,
    p.1.length = r.world.client.dimension ∧ p.2.length = r.world.client.dimension
  /-- When a vector of this length comes, its worker goes on to the decision on the entry: it is a
  near-duplicate exactly if enough of the pairs that are compared are similar. -/
  decided : ∀ i item x, (item, .ok x) ∈ j.world.answers i → x.length = r.world.client.dimension →
    ∃ k, j.world.workers[i]? = some k ∧ j.world.work i = some (j.world.keep i k item x) ∧
      (j.world.considered k item x).1 =
        if k.dedup.settings.minExamples.toNat ≤ (j.world.compared i).countP fun p =>
          Embedding.similar k.dedup.settings.threshold p.1 p.2
        then .suppress else .accept
  /-- As many failures are counted as vectors of another length came, together with the faults that
  came in place of a vector. -/
  counted : j.world.metrics.totals.embeddingFailures =
    UInt64.ofNat ((l.log World.answering).countP fun x => r.world.client.refuses x.2)
  /-- When a vector of another length comes, it is not compared, one failure is counted, and its
  worker goes on to the next entry. Nothing else happens. -/
  refused : ∀ i item x, (item, .ok x) ∈ j.world.answers i → x.length ≠ r.world.client.dimension →
    j.world.compared i = [] ∧ ∃ k, j.world.workers[i]? = some k ∧ j.act? (.work i) = some { j with
      world := (j.world.count .embeddingFailure).setWorker i { k with phase := .idle } }

/-- A step in which nothing is asked of others. -/
theorem Instance.act?_of_work {j : Instance} {i : Nat} {w : World} (h : j.world.work i = some w)
    (hasked : w.asked = j.world.asked) (hwrites : w.writes = j.world.writes) :
    j.act? (.work i) = some { j with world := w } := by
  have hnothing : asked j.handle j.world w = [] := by simp [asked, gained, hasked, hwrites]
  have happly : j.world.apply (.work i) = some w := h
  simp only [act?, happly, Option.bind_eq_bind, Option.bind_some, hnothing, List.nil_append]
  rfl

/-- **Vectors have one length, from the environment to the store**, for every instance that starts
and all it lives through. -/
theorem oneLength {processors : Nat} {vars : Config.Variables} {s : Surroundings} {fuel : Nat}
    {r : Running} (h : (startWith processors vars s fuel).result = some (.ok r)) {j : Instance}
    (l : Instance.Life (.start r (startWith processors vars s fuel).requests) j) :
    OneLength vars s r (startWith processors vars s fuel).requests l := by
  obtain ⟨c, hc, hstarted⟩ := started_of_startWith h
  have hread := Config.Service.readFrom hc
  have hclient : r.world.client = clientOf c := by
    rw [hstarted.world]
    rfl
  have hdimension : r.world.client.dimension = c.embedder.dimension := by
    rw [hclient]
    rfl
  have hsettings : r.handle.settings = c.store := by rw [hstarted.handle]
  have hstart := Instance.isUniform_start hstarted
  have huniform := l.reaches.isUniform hstart
  have hsame : j.world.client = r.world.client := l.reaches.client
  refine
    { setting := by rw [hdimension]; exact hread.embedder.dimension
      collection := ?collection
      written := fun collection points hwrite => ?written
      compared := fun p hp => ?compared
      decided := fun i item x hx hlength => World.work_of_rightLength hx (hsame ▸ hlength)
      counted := ?counted
      refused := fun i item x hx hlength => ?refused }
  case collection =>
    obtain ⟨checks, hasked⟩ := hstarted.asked
    refine ⟨checks, _, hasked, ?_⟩
    have hsame : r.handle.settings.dimension = r.world.client.dimension := by
      rw [hsettings, hdimension]
      exact hread.dimension
    have hpos : 1 ≤ r.handle.settings.dimension := by
      rw [hsame, hdimension]
      exact (Config.Variables.positiveOr_eq_ok.mp hread.embedder.dimension).2
    rw [← hsame]
    exact Store.Handle.settles_ensure hpos [] hstarted.ensured
  case written =>
    rw [hsettings, hdimension]
    exact huniform.written collection points hwrite
  case compared =>
    obtain ⟨m, a, hm, hp⟩ := l.exists_of_mem_log hp
    have hcompared := (hm.isUniform hstart).world.comparing a p hp
    rw [hm.client] at hcompared
    exact hcompared
  case counted =>
    have hnone : r.world.metrics.totals.embeddingFailures = 0 := by
      rw [hstarted.world]
      rfl
    have htotal : j.world.metrics.totals.embeddingFailures =
        r.world.metrics.totals.embeddingFailures + UInt64.ofNat _ := l.embeddingFailures_eq
    rw [hnone, UInt64.zero_add] at htotal
    exact htotal
  case refused =>
    obtain ⟨hnothing, k, hk, hwork⟩ := World.work_of_wrongLength hx (hsame ▸ hlength)
    exact ⟨hnothing, k, hk, Instance.act?_of_work hwork rfl rfl⟩

/-! ### An instance with vectors of length two -/

/-- A life goes on with some steps, up to the first one that cannot be taken. -/
def Instance.Life.goOn {i j : Instance} (past : Life i j) : List Action → (k : Instance) × Life i k
  | [] => ⟨j, past⟩
  | a :: rest =>
    match h : j.act? a with
    | some _ =>
      if hfree : j.activity ≠ .stopped ∧ a ≠ .stop then (past.act a hfree.1 hfree.2 h).goOn rest
      else ⟨j, past⟩
    | none => ⟨j, past⟩

namespace VectorTooLong

def vars : Config.Variables :=
  ⟨[("EMBEDDING_DIMENSION", Text.Utf8.encode "2"), ("WORKER_COUNT", Text.Utf8.encode "1"),
    ("BATCH_SIZE", Text.Utf8.encode "1")]⟩

/-- The store has no collection and creates one. The provider gives one text a vector that is too
long. -/
def surroundings : Surroundings where
  check _ := .after 0 (.gives ())
  answer _
    | .has _ => .ok false
    | .describe _ => .ok .unknown
    | .create _ _ | .write _ _ | .health => .ok ()
  probe := .after 0 (.gives ())
  listener := .ok ()
  backend := {
    embed := fun _ text => .after 0 (.gives (List.replicate (if text = "long" then 3 else 2) .one))
    insert := fun _ => .after 0 (.gives ())
    check := fun _ => .after 0 (.gives ()) }

/-- The instance that a start leads to. -/
def running? (t : Start) : Option Running :=
  match t.result with
  | some (.ok r) => some r
  | _ => none

theorem isSome_running? : (running? (startWith 4 vars surroundings 10)).isSome := by
  decide +kernel

def running : Running :=
  (running? (startWith 4 vars surroundings 10)).get isSome_running?

theorem result_eq : (startWith 4 vars surroundings 10).result = some (.ok running) := by
  have hrunning : running? (startWith 4 vars surroundings 10) = some running :=
    (Option.some_get isSome_running?).symm
  rw [running?] at hrunning
  split at hrunning
  · rename_i r hresult
    rw [hresult, Option.some.inj hrunning]
  · cases hrunning

/-- Three entries of one source come, and the one worker goes on until it compares the vectors of
the last two. -/
def steps : List Action :=
  (["long", "first", "again"].map fun message => .offer ⟨default, message, "app", []⟩) ++
    List.replicate 11 (.work 0)

def life := (Instance.Life.refl (i := .start running
  (startWith 4 vars surroundings 10).requests)).goOn steps

end VectorTooLong

/-- One vector is refused, and two are compared. -/
theorem oneLength_vectorTooLong :
    (startWith 4 VectorTooLong.vars VectorTooLong.surroundings 10).result =
      some (.ok VectorTooLong.running) ∧
    (VectorTooLong.life.2.log World.answering).map (fun x => (x.1.entry.message, x.2.toOption)) =
      [("long", some [.one, .one, .one]), ("first", some [.one, .one]),
        ("again", some [.one, .one])] ∧
    VectorTooLong.life.2.log World.comparing = [([.one, .one], [.one, .one])] ∧
    OneLength VectorTooLong.vars VectorTooLong.surroundings VectorTooLong.running
      (startWith 4 VectorTooLong.vars VectorTooLong.surroundings 10).requests
      VectorTooLong.life.2 :=
  ⟨VectorTooLong.result_eq, by decide +kernel, by decide +kernel,
    oneLength VectorTooLong.result_eq VectorTooLong.life.2⟩

end LogIntake.Service
