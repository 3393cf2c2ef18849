import LogIntake.Proofs.Config.Loading
import LogIntake.Service.Startup

/-!
# Starts that succeed

A start that succeeds has gone through all its parts, so each of them has done its work:
`Started` says with what an instance runs then, and what was asked of others on the way.

The store in particular has been asked about the collection until the length of its vectors was
settled: the last request created the collection for vectors of the handle's length, or the store
said that the collection has such vectors (`Store.Settled`, `Store.Handle.settled_of_ensure`).
-/

namespace LogIntake

namespace Dialogue

variable {Q : Type} {A : Q → Type} {R σ : Type}

/-- All requests that a dialogue may come to, whatever the answers are, are of a kind. -/
def Asks (P : Q → Prop) : Dialogue Q A R → Prop
  | .done _ => True
  | .ask q next => P q ∧ ∀ a, Asks P (next a)

theorem Asks.of_mem_requests {P : Q → Prop} {answer : (q : Q) → σ → A q × σ}
    {d : Dialogue Q A R} (h : d.Asks P) (s : σ) : ∀ q ∈ (d.hold answer s).requests, P q := by
  induction d generalizing s with
  | done r => exact nofun
  | ask q next ih =>
    rw [hold]
    exact List.forall_mem_cons.mpr ⟨h.1, ih _ (h.2 _) _⟩

end Dialogue

namespace Store

/-- The last of some requests, first one first, has settled which length the vectors of a
collection have, where a request is answered as the earlier ones, last one first, make it. -/
inductive Settled (answer : (earlier : List Request) → (q : Request) → q.Answer)
    (collection : String) (n : Nat) : List Request → Prop where
  /-- The collection was created for them. -/
  | created {before : List Request}
      (hanswer : answer before.reverse (.create collection n) = .ok ()) :
    Settled answer collection n (before ++ [.create collection n])
  /-- The store said that the collection has them. -/
  | verified {before : List Request} {shape : Shape}
      (hanswer : answer before.reverse (.describe collection) = .ok shape)
      (hshape : shape.length? = some n) :
    Settled answer collection n (before ++ [.describe collection])

namespace Handle

variable {answer : (earlier : List Request) → (q : Request) → q.Answer} {h : Handle}

/-- Making sure of a collection writes nothing. -/
theorem asks_ensure (h : Handle) :
    h.ensure.Asks fun q => ∀ collection points, q ≠ .write collection points := by
  have hverify : h.verify.Asks fun q => ∀ collection points, q ≠ .write collection points := by
    refine ⟨fun _ _ => Request.noConfusion, fun a => ?_⟩
    cases a <;> trivial
  refine ⟨fun _ _ => Request.noConfusion, fun a => ?_⟩
  cases a with
  | error e => trivial
  | ok there =>
    cases there with
    | true => exact hverify
    | false =>
      refine ⟨fun _ _ => Request.noConfusion, fun a => ?_⟩
      cases a with
      | ok _ => trivial
      | error failure =>
        refine ⟨fun _ _ => Request.noConfusion, fun a => ?_⟩
        cases a with
        | error e => trivial
        | ok there =>
          cases there with
          | true => exact hverify
          | false => trivial

/-- A talk with a store whose answers go by the earlier requests, last one first. -/
def talk {R : Type} (answer : (earlier : List Request) → (q : Request) → q.Answer) (t : Talk R)
    (earlier : List Request) : Dialogue.Record Request R (List Request) :=
  t.hold (fun q earlier => (answer earlier q, q :: earlier)) earlier

/-- A talk that ends well has settled the length of the vectors of a handle's collection, whatever
was asked before. -/
def Settles (answer : (earlier : List Request) → (q : Request) → q.Answer) (h : Handle)
    (t : Talk (Except Fault Unit)) : Prop :=
  ∀ before, (talk answer t before.reverse).result = .ok () →
    Settled answer h.settings.collection h.settings.dimension
      (before ++ (talk answer t before.reverse).requests)

theorem settles_error (f : Fault) : Settles answer h (.done (.error f)) :=
  fun _ hok => nomatch hok

/-- A talk settles the length if it does so after the answer to its first request. -/
theorem settles_ask {q : Request} {next : q.Answer → Talk (Except Fault Unit)}
    (hnext : ∀ before, (∀ a, answer before.reverse q = a →
      (talk answer (next a) (before ++ [q]).reverse).result = .ok () →
        Settled answer h.settings.collection h.settings.dimension
          (before ++ [q] ++ (talk answer (next a) (before ++ [q]).reverse).requests))) :
    Settles answer h (.ask q next) := by
  intro before hok
  -- The answer is fixed by the requests before, so what follows it is a talk of its own.
  have hsettled := hnext before _ rfl
  rw [List.reverse_append, List.append_assoc] at hsettled
  exact hsettled hok

/-- A look at the vectors that ends well has found those of the right length. An unknown length
counts as zero, and no vectors have that. -/
theorem settles_verify (hpos : 1 ≤ h.settings.dimension) : Settles answer h h.verify := by
  refine settles_ask fun before a ha hok => ?_
  cases a with
  | error e => cases hok
  | ok shape =>
    change Settled _ _ _ (before ++ [_] ++ [])
    rw [List.append_nil]
    refine .verified ha ?_
    change (if shape.length?.getD 0 = h.settings.dimension then _ else _) = _ at hok
    split at hok
    · rename_i hlength
      cases hshape : shape.length? with
      | none =>
        rw [hshape, Option.getD_none] at hlength
        omega
      | some n =>
        rw [hshape, Option.getD_some] at hlength
        rw [hlength]
    · cases hok

/-- **Making sure of a collection settles the length of its vectors.** -/
theorem settles_ensure (hpos : 1 ≤ h.settings.dimension) : Settles answer h h.ensure := by
  refine settles_ask fun before a ha => ?_
  cases a with
  | error e => exact settles_error _ _
  | ok there =>
    cases there with
    | true => exact settles_verify hpos _
    | false =>
      refine settles_ask (fun before a ha => ?_) _
      -- If the collection cannot be created, another program may have been faster.
      cases a with
      | ok _ =>
        intro _
        change Settled _ _ _ (before ++ [_] ++ [])
        rw [List.append_nil]
        exact .created ha
      | error failure =>
        refine settles_ask (fun before a ha => ?_) _
        cases a with
        | error e => exact settles_error _ _
        | ok there =>
          cases there with
          | true => exact settles_verify hpos _
          | false => exact settles_error _ _

end Handle

end Store

namespace Service

/-- What is so when an instance has started, and what was asked of others until then. -/
structure Started (c : Config.Service) (s : Surroundings) (r : Running) (asked : List Outgoing) :
    Prop where
  handle : r.handle = ⟨c.store, false⟩
  world : r.world = .start c.pipeline (clientOf c) s.backend
  /-- It was made sure of the collection. -/
  ensured : (Store.Handle.talk s.answer r.handle.ensure []).result = .ok ()
  /-- The store was asked for its health, then about the collection, and the provider was asked
  for one embedding. -/
  asked : ∃ checks, asked = List.replicate checks (.store .health) ++
    (Store.Handle.talk s.answer r.handle.ensure []).requests.map .store ++
      [.embed Config.Embedder.healthText]

variable {processors : Nat} {vars : Config.Variables} {c : Config.Service} {s : Surroundings}
  {fuel : Nat} {r : Running}

theorem eq_of_listen {handle : Store.Handle} {world : Pipeline.World}
    (h : listen c s handle world = .ok r) : r.handle = handle ∧ r.world = world := by
  obtain ⟨address, -, h⟩ := Config.bind_eq_ok.mp h
  obtain ⟨_, -, h⟩ := Config.bind_eq_ok.mp h
  obtain rfl := Except.ok.inj h
  exact ⟨rfl, rfl⟩

theorem eq_of_launch {handle : Store.Handle} (h : launch c s handle = some (.ok r)) :
    r.handle = handle ∧ r.world = .start c.pipeline (clientOf c) s.backend := by
  rw [launch, Pipeline.World.launch] at h
  split at h
  · rename_i world hworld
    obtain ⟨hhandle, hsame⟩ := eq_of_listen (Option.some.inj h)
    refine ⟨hhandle, hsame.trans ?_⟩
    split at hworld
    · cases hworld
    · split at hworld
      · exact (Response.gives.inj hworld).symm
      · cases hworld
  · cases h
  · cases h

/-- The health of a provider is checked once, however that ends. -/
theorem attempts_check (k : Client) (reply : Reply Unit) (now : Nat) :
    (k.check reply now).attempts = [now] := by
  rw [Client.check]
  split <;> rfl

theorem started_of_introduce {handle : Store.Handle} {asked : List Outgoing}
    (h : (introduce c s handle asked).result = some (.ok r)) :
    r.handle = handle ∧ r.world = .start c.pipeline (clientOf c) s.backend ∧
      (introduce c s handle asked).requests = asked ++ [.embed Config.Embedder.healthText] := by
  simp only [introduce, attempts_check] at h ⊢
  split at h
  · cases h
  · -- What the health check of the provider comes to makes no difference.
    split at h
    case h_1 | h_2 =>
      obtain ⟨hhandle, hworld⟩ := eq_of_launch h
      exact ⟨hhandle, hworld, rfl⟩
    all_goals cases h

theorem started_of_prepare {handle : Store.Handle} (hhandle : handle = ⟨c.store, false⟩)
    {checks : Nat}
    (h : (prepare c s handle (List.replicate checks (.store .health))).result = some (.ok r)) :
    Started c s r (prepare c s handle (List.replicate checks (.store .health))).requests := by
  simp only [prepare] at h ⊢
  split at h
  · cases h
  · rename_i hensured
    obtain ⟨hsame, hworld, hrequests⟩ := started_of_introduce h
    refine ⟨hsame.trans hhandle, hworld, hsame ▸ hensured, checks, ?_⟩
    rw [hsame]
    exact hrequests

/-- A new handle is open. -/
theorem eq_of_ofSettings {handle : Store.Handle} {settings : Config.Store}
    (h : Store.Handle.ofSettings settings = .ok handle) : handle = ⟨settings, false⟩ := by
  rw [Store.Handle.ofSettings] at h
  split at h
  · exact (Except.ok.inj h).symm
  · cases h

theorem started_of_connect (h : (connect c s fuel).result = some (.ok r)) :
    Started c s r (connect c s fuel).requests := by
  rw [connect] at h ⊢
  split at h
  · cases h
  · rename_i handle hhandle
    dsimp only at h ⊢
    split at h
    · exact started_of_prepare (eq_of_ofSettings hhandle) h
    all_goals cases h

/-- **An instance that has started has gone through all parts of a start.** -/
theorem started_of_start (h : (start c s fuel).result = some (.ok r)) :
    Started c s r (start c s fuel).requests := by
  rw [start] at h ⊢
  split at h
  · cases h
  · exact started_of_connect h

theorem started_of_startWith (h : (startWith processors vars s fuel).result = some (.ok r)) :
    ∃ c, Config.Service.ofVariables processors vars = .ok c ∧
      Started c s r (startWith processors vars s fuel).requests := by
  rw [startWith] at h ⊢
  cases hc : Config.Service.ofVariables processors vars with
  | error e =>
    rw [hc] at h
    cases h
  | ok c =>
    rw [hc] at h
    exact ⟨c, rfl, started_of_start h⟩

end Service

end LogIntake
