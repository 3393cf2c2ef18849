import Mathlib.Data.List.Forall2
import LogIntake.Store.Server

/-!
# Programs that make sure of one collection

Any number of programs may make sure of one collection at the same time, each of them any number of
times. The check, the creation, the second check and the look at the vectors are requests of their
own, and requests of the others may be answered between any two of them.

`Truthful` says what the server is like, seen from the collection. What a program relies on is
that a collection that is there stays there with its vectors (`Later`); what the others may rely
on is that the program leaves the collection as it is, or creates it for its own vectors.
`Leads` says that a talk comes to a right result within a number of requests under these terms;
it is a statement about one talk alone, and `Handle.ensure_leads` shows it by going through the
talk. `Race.Keeps` puts the talks of a race together: every step keeps it and uses up one request
(`Race.Keeps.step`), so races end, and with right results (`Race.Run.agreement`).
-/

namespace LogIntake.Store

variable {σ R S : Type} {answer : (q : Request) → σ → q.Answer × σ} {shape? : σ → Option Shape}
  {collection : String}

/-! ### Truthful servers -/

/-- What is expected of a server, where `shape?` says which vectors a collection has in a state, if
it is there. -/
structure Truthful (answer : (q : Request) → σ → q.Answer × σ) (shape? : σ → Option Shape)
    (collection : String) : Prop where
  has : ∀ s, (answer (.has collection) s).1 = .ok (shape? s).isSome
  describes : ∀ s shape, shape? s = some shape →
    (answer (.describe collection) s).1 = .ok shape
  /-- A collection that is not there is created, -/
  creates : ∀ s n, shape? s = none → (answer (.create collection n) s).1 = .ok () ∧
    shape? (answer (.create collection n) s).2 = some (.single n)
  /-- and one that is there is not created again. -/
  refuses : ∀ s n, (shape? s).isSome → ∃ e, (answer (.create collection n) s).1 = .error e
  /-- A collection that is there stays there, with its vectors. -/
  keeps : ∀ s q, (shape? s).isSome → shape? (answer q s).2 = shape? s
  /-- Only a request to create it brings a collection about. -/
  lacks : ∀ s q, shape? s = none → (∀ n, q ≠ .create collection n) →
    shape? (answer q s).2 = none

theorem Server.truthful (collection : String) :
    Truthful Server.answer (Server.shape? · collection) collection where
  has s := rfl
  describes s shape h := by rw [answer, h]
  creates s n h := by
    simp only [answer, h, true_and]
    exact List.lookup_cons_self
  refuses s n h := by
    obtain ⟨shape, hshape⟩ := Option.isSome_iff_exists.mp h
    exact ⟨_, by rw [answer, hshape]⟩
  keeps s q h := by
    cases q with
    | has _ | health => rfl
    | describe c | write c _ => simp only [answer]; split <;> rfl
    | create c n =>
      simp only [answer]
      split
      · rfl
      · rename_i hnone
        have hne : collection ≠ c := fun heq => by simp [heq, hnone] at h
        rw [shape?, List.lookup_cons, beq_eq_false_iff_ne.mpr hne]
        rfl
  lacks s q h hq := by
    cases q with
    | has _ | health => exact h
    | describe c | write c _ => simp only [answer]; split <;> exact h
    | create c n =>
      have hne : collection ≠ c := fun heq => hq n (by rw [heq])
      simp only [answer]
      split
      · exact h
      · rw [shape?, List.lookup_cons, beq_eq_false_iff_ne.mpr hne]
        exact h

/-- A state that a server may be in later: if the collection was there, it still is, with its
vectors. -/
def Later (shape? : σ → Option Shape) (s s' : σ) : Prop :=
  ∀ shape, shape? s = some shape → shape? s' = some shape

theorem Later.refl (s : σ) : Later shape? s s :=
  fun _ h => h

theorem Later.trans {s s' s'' : σ} (h : Later shape? s s') (h' : Later shape? s' s'') :
    Later shape? s s'' :=
  fun shape hs => h' shape (h shape hs)

theorem Truthful.later (ht : Truthful answer shape? collection) (q : Request) (s : σ) :
    Later shape? s (answer q s).2 := by
  intro shape hs
  rw [ht.keeps s q (by rw [hs]; rfl), hs]

/-- A request that is not to create the collection leaves it as it is. -/
theorem Truthful.same (ht : Truthful answer shape? collection) {q : Request}
    (hq : ∀ n, q ≠ .create collection n) (s : σ) : shape? (answer q s).2 = shape? s := by
  cases hs : shape? s with
  | none => exact ht.lacks s q hs hq
  | some shape => rw [ht.keeps s q (by rw [hs]; rfl), hs]

/-! ### Talks among others -/

/-- A talk comes to a right result within a number of requests, with no other effects than it may
have, although others may have requests answered before each of its own. -/
def Leads (answer : (q : Request) → σ → q.Answer × σ) (shape? : σ → Option Shape)
    (effect : σ → σ → Prop) (result : σ → R → Prop) : (requests : Nat) → σ → Talk R → Prop
  | _, s, .done r => result s r
  | 0, _, .ask _ _ => False
  | n + 1, s, .ask q next => ∀ s', Later shape? s s' → effect s' (answer q s').2 ∧
      Leads answer shape? effect result n (answer q s').2 (next (answer q s').1)

namespace Leads

variable {effect : σ → σ → Prop} {result : σ → R → Prop} {n m : Nat} {s s' : σ} {t : Talk R}

@[simp] theorem done {r : R} :
    Leads answer shape? effect result n s (.done r) ↔ result s r := by
  cases n <;> rfl

/-- What others do does not matter. -/
theorem later (h : Leads answer shape? effect result n s t)
    (hresult : ∀ s s' r, Later shape? s s' → result s r → result s' r)
    (hs : Later shape? s s') : Leads answer shape? effect result n s' t := by
  cases t with
  | done r => exact done.mpr (hresult s s' r hs (done.mp h))
  | ask q next =>
    cases n with
    | zero => exact h.elim
    | succ n => exact fun s'' hs'' => h s'' (hs.trans hs'')

theorem le (h : Leads answer shape? effect result n s t) (hle : n ≤ m) :
    Leads answer shape? effect result m s t := by
  induction n generalizing m s t with
  | zero =>
    cases t with
    | done r => exact done.mpr (done.mp h)
    | ask q next => exact h.elim
  | succ n ih =>
    cases t with
    | done r => exact done.mpr (done.mp h)
    | ask q next =>
      obtain ⟨m, rfl⟩ : ∃ k, m = k + 1 := ⟨m - 1, by omega⟩
      exact fun s' hs' => ⟨(h s' hs').1, ih (h s' hs').2 (Nat.le_of_succ_le_succ hle)⟩

/-- What stays so along with the collection can be carried through a talk. -/
theorem carry (ht : Truthful answer shape? collection) {result' : σ → R → Prop} {p : σ → Prop}
    (hp : ∀ s s', Later shape? s s' → p s → p s')
    (h : Leads answer shape? effect result n s t) (hs : p s)
    (hresult : ∀ s r, p s → result s r → result' s r) :
    Leads answer shape? effect result' n s t := by
  induction n generalizing s t with
  | zero =>
    cases t with
    | done r => exact hresult s r hs h
    | ask q next => exact h.elim
  | succ n ih =>
    cases t with
    | done r => exact hresult s r hs h
    | ask q next =>
      intro s' hs'
      exact ⟨(h s' hs').1, ih (h s' hs').2 (hp _ _ (hs'.trans (ht.later q s')) hs)⟩

theorem mono (ht : Truthful answer shape? collection) {result' : σ → R → Prop}
    (h : Leads answer shape? effect result n s t)
    (hresult : ∀ s r, result s r → result' s r) : Leads answer shape? effect result' n s t :=
  h.carry ht (p := fun _ => True) (fun _ _ _ _ => trivial) trivial fun s r _ => hresult s r

/-- One talk after another one. -/
theorem bind {result' : σ → S → Prop} {f : R → Talk S}
    (h : Leads answer shape? effect (fun s r => Leads answer shape? effect result' m s (f r))
      n s t) :
    Leads answer shape? effect result' (n + m) s (t.bind f) := by
  induction n generalizing s t with
  | zero =>
    cases t with
    | done r => exact le h (Nat.le_add_left m 0)
    | ask q next => exact h.elim
  | succ n ih =>
    cases t with
    | done r =>
      have hnext : Leads answer shape? effect result' m s (f r) := h
      exact hnext.le (Nat.le_add_left m (n + 1))
    | ask q next =>
      rw [Nat.add_right_comm]
      exact fun s' hs' => ⟨(h s' hs').1, ih (h s' hs').2⟩

end Leads

/-! ### Making sure of the collection -/

namespace Handle

variable {h : Handle} {s s' : σ} {shape : Shape}

/-- What it comes to to make sure of a collection that is there with some vectors. -/
def verdict (h : Handle) (shape : Shape) : Except Fault Unit :=
  if shape.length?.getD 0 = h.settings.dimension then .ok ()
  else .error (.collectionDimension h.settings.collection h.settings.dimension
    (shape.length?.getD 0))

/-- A result that fits the vectors that the collection has. -/
def IsRight (shape? : σ → Option Shape) (h : Handle) (s : σ) (r : Except Fault Unit) : Prop :=
  ∃ shape, shape? s = some shape ∧ r = h.verdict shape

theorem IsRight.later {r : Except Fault Unit} (hr : h.IsRight shape? s r)
    (hs : Later shape? s s') : h.IsRight shape? s' r := by
  obtain ⟨shape, hshape, rfl⟩ := hr
  exact ⟨shape, hs shape hshape, rfl⟩

/-- The collection is as it was, or has been created for the vectors of the handle. -/
def MayCreate (shape? : σ → Option Shape) (h : Handle) (s s' : σ) : Prop :=
  shape? s' = shape? s ∨ shape? s' = some (.single h.settings.dimension)

variable (ht : Truthful answer shape? h.settings.collection)
include ht

/-- The vectors of a collection that is there are looked at with one request. -/
private theorem verify_leads (hs : shape? s = some shape) :
    Leads answer shape? (h.MayCreate shape?) (h.IsRight shape?) 1 s h.verify := by
  intro s' hs'
  have hshape := hs' shape hs
  refine ⟨.inl (ht.same (fun n => Request.noConfusion) s'), ?_⟩
  rw [ht.describes s' shape hshape]
  exact ⟨shape, ht.later _ s' shape hshape, rfl⟩

/-- **Making sure of a collection** takes at most four requests and comes to a right result, also
when another program creates the collection meanwhile. -/
theorem ensure_leads (s : σ) :
    Leads answer shape? (h.MayCreate shape?) (h.IsRight shape?) 4 s h.ensure := by
  have hsame : ∀ s, shape? (answer (.has h.settings.collection) s).2 = shape? s :=
    ht.same fun n => Request.noConfusion
  intro s₁ _
  refine ⟨.inl (hsame s₁), ?_⟩
  rw [ht.has s₁]
  cases h₁ : shape? s₁ with
  | some shape =>
    exact (verify_leads ht (by rw [hsame, h₁])).le (by decide)
  | none =>
    -- It was not there, but may be by now.
    intro s₂ _
    cases h₂ : shape? s₂ with
    | none =>
      obtain ⟨hcreated, hshape⟩ := ht.creates s₂ h.settings.dimension h₂
      refine ⟨.inr hshape, ?_⟩
      rw [hcreated]
      exact ⟨_, hshape, by simp [verdict, Shape.length?]⟩
    | some shape =>
      have hsome : (shape? s₂).isSome := by rw [h₂]; rfl
      obtain ⟨e, hrefused⟩ := ht.refuses s₂ h.settings.dimension hsome
      refine ⟨.inl (ht.keeps s₂ _ hsome), ?_⟩
      rw [hrefused]
      intro s₃ hs₃
      have h₃ : shape? s₃ = some shape := hs₃ shape (ht.later _ s₂ shape h₂)
      refine ⟨.inl (hsame s₃), ?_⟩
      rw [ht.has s₃, h₃]
      exact verify_leads ht (by rw [hsame, h₃])

theorem ensureTimes_leads (n : Nat) (s : σ) :
    Leads answer shape? (h.MayCreate shape?)
      (fun s rs => rs.length = n ∧ ∀ r ∈ rs, h.IsRight shape? s r) (4 * n) s
      (h.ensureTimes n) := by
  induction n generalizing s with
  | zero => exact ⟨rfl, nofun⟩
  | succ n ih =>
    rw [ensureTimes, show 4 * (n + 1) = 4 + (4 * n + 0) by omega]
    refine Leads.bind ((ensure_leads ht s).mono ht fun s₁ r hr => Leads.bind ?_)
    -- The first result stays right while the others come in.
    refine (ih s₁).carry ht (fun _ _ hs hr => IsRight.later hr hs) hr fun s₂ rs hr hrs => ?_
    exact ⟨congrArg (· + 1) hrs.1, List.forall_mem_cons.mpr ⟨hr, hrs.2⟩⟩

end Handle

/-! ### Races -/

/-- What a party of a race is known for: what it may do to the server, and which results are right
for it in which state. -/
structure Promise (shape? : σ → Option Shape) (R : Type) where
  effect : σ → σ → Prop
  result : σ → R → Prop
  later : ∀ s s' r, Later shape? s s' → result s r → result s' r

/-- What is known of a program that makes sure of its collection a number of times. -/
def Handle.promise (shape? : σ → Option Shape) (x : Handle × Nat) :
    Promise shape? (List (Except Fault Unit)) where
  effect := x.1.MayCreate shape?
  result s rs := rs.length = x.2 ∧ ∀ r ∈ rs, x.1.IsRight shape? s r
  later _ _ _ hs h := ⟨h.1, fun r hr => (h.2 r hr).later hs⟩

namespace Race

variable {r r' v : Race σ R} {i : Nat}

/-- A step has a request of one party answered. -/
theorem step?_eq_some (h : r.step? answer i = some r') :
    ∃ q next, r.parties[i]? = some (.ask q next) ∧
      r' = ⟨(answer q r.server).2, r.parties.set i (next (answer q r.server).1)⟩ := by
  cases hi : r.parties[i]? with
  | none => simp [step?, hi] at h
  | some t =>
    cases t with
    | done result => simp [step?, hi, Dialogue.request?] at h
    | ask q next =>
      simp only [step?, hi, Dialogue.request?, Dialogue.advance] at h
      exact ⟨q, next, rfl, (Option.some.inj h).symm⟩

/-- The result of a party that has ended. -/
def result? (r : Race σ R) (i : Nat) : Option R :=
  r.parties[i]?.bind Dialogue.result?

theorem result?_eq_some {x : R} (h : r.result? i = some x) : r.parties[i]? = some (.done x) := by
  obtain ⟨t, ht, hx⟩ := Option.bind_eq_some_iff.mp h
  cases t with
  | done y => cases hx; exact ht
  | ask q next => cases hx

/-- A party that has not ended can go on. -/
theorem isSome_step? (hi : i < r.parties.length) (hend : r.result? i = none) :
    (r.step? answer i).isSome := by
  have ht : r.parties[i]? = some r.parties[i] := List.getElem?_eq_getElem hi
  rw [result?, ht] at hend
  cases h : r.parties[i] with
  | done x => rw [h] at hend; cases hend
  | ask q next =>
    rw [h] at ht
    simp only [step?, ht]
    rfl

/-- Whether the next request of a party creates a collection. -/
def creates (answer : (q : Request) → σ → q.Answer × σ) (collection : String) (r : Race σ R)
    (i : Nat) : Bool :=
  match r.parties[i]? with
  | some (.ask (.create c n) _) => c == collection && (answer (.create c n) r.server).1.isOk
  | _ => false

/-- How often a collection was created. -/
def Run.created (collection : String) : {s : Race σ R} → Run answer r s → Nat
  | _, .refl => 0
  | _, .step (s := s) past i _ =>
    past.created collection + (s.creates answer collection i).toNat

/-- How many requests of a party were answered. -/
def Run.requests (i : Nat) : {s : Race σ R} → Run answer r s → Nat
  | _, .refl => 0
  | _, .step past j _ => past.requests i + if j = i then 1 else 0

/-- A request creates the collection exactly if it was not there and is now. -/
theorem creates_add (ht : Truthful answer shape? collection) (h : r.step? answer i = some r') :
    (r.creates answer collection i).toNat + (shape? r.server).isSome.toNat =
      (shape? r'.server).isSome.toNat := by
  obtain ⟨q, next, hi, rfl⟩ := step?_eq_some h
  by_cases hq : ∃ n, q = .create collection n
  · obtain ⟨n, rfl⟩ := hq
    simp only [creates, hi, beq_self_eq_true, Bool.true_and]
    cases hs : shape? r.server with
    | none =>
      obtain ⟨hok, hshape⟩ := ht.creates r.server n hs
      rw [hok, hshape]
      rfl
    | some shape =>
      have hsome : (shape? r.server).isSome := by rw [hs]; rfl
      obtain ⟨e, he⟩ := ht.refuses r.server n hsome
      rw [he, ht.keeps r.server _ hsome, hs]
      rfl
  · have hnot : r.creates answer collection i = false := by
      rw [creates, hi]
      cases q with
      | create c n =>
        have hne : c ≠ collection := fun heq => hq ⟨n, by rw [heq]⟩
        exact Bool.and_eq_false_iff.mpr (.inl (beq_eq_false_iff_ne.mpr hne))
      | has _ | describe _ | write _ _ | health => rfl
    rw [hnot, ht.same (fun n heq => hq ⟨n, heq⟩)]
    exact Nat.zero_add _

/-- What is left of a race in which every party keeps its promise and has a number of requests
left. -/
structure Keeps (answer : (q : Request) → σ → q.Answer × σ) (promises : List (Promise shape? R))
    (left : Nat → Nat) (r : Race σ R) : Prop where
  length : r.parties.length = promises.length
  leads : ∀ {i p t}, promises[i]? = some p → r.parties[i]? = some t →
    Leads answer shape? p.effect p.result (left i) r.server t

/-- A step uses up a request of the party that goes on, and is an effect that it may have. -/
theorem Keeps.step (ht : Truthful answer shape? collection) {promises : List (Promise shape? R)}
    {left : Nat → Nat} (hr : Keeps answer promises left r) (h : r.step? answer i = some r') :
    ∃ left', Keeps answer promises left' r' ∧ (∀ j, left' j + (if i = j then 1 else 0) = left j) ∧
      ∃ p ∈ promises, p.effect r.server r'.server := by
  obtain ⟨q, next, hi, rfl⟩ := step?_eq_some h
  obtain ⟨hlt, -⟩ := List.getElem?_eq_some_iff.mp hi
  obtain ⟨p, hp⟩ : ∃ p, promises[i]? = some p :=
    ⟨_, List.getElem?_eq_getElem (hr.length ▸ hlt)⟩
  have hleads := hr.leads hp hi
  cases hleft : left i with
  | zero => rw [hleft] at hleads; exact hleads.elim
  | succ n =>
    rw [hleft] at hleads
    obtain ⟨heffect, hnext⟩ := hleads r.server (Later.refl _)
    refine ⟨fun j => left j - if i = j then 1 else 0, ⟨?_, ?_⟩, fun j => ?_,
      p, List.mem_of_getElem? hp, heffect⟩
    · rw [List.length_set, hr.length]
    · intro j p' t hp' ht'
      by_cases hij : i = j
      · subst hij
        rw [List.getElem?_set_self hlt] at ht'
        cases ht'
        cases hp.symm.trans hp'
        simpa [hleft] using hnext
      · rw [List.getElem?_set_ne hij] at ht'
        simpa [hij] using (hr.leads hp' ht').later p'.later (ht.later q r.server)
    · by_cases hij : i = j
      · subst hij
        simp [hleft]
      · simp [hij]

/-- **A race keeps its promises**: each party makes the requests that it has at most, and how the
server has changed is what one of the parties may do, time and again. -/
theorem Run.keeps (ht : Truthful answer shape? collection) {promises : List (Promise shape? R)}
    {left : Nat → Nat} {p : σ → Prop} (run : Run answer r v) (hr : Keeps answer promises left r)
    (hp : ∀ x ∈ promises, ∀ s s', x.effect s s' → p s → p s') (hs : p r.server) :
    ∃ left', Keeps answer promises left' v ∧ (∀ i, left' i + run.requests i = left i) ∧
      run.created collection + (shape? r.server).isSome.toNat = (shape? v.server).isSome.toNat ∧
      p v.server := by
  induction run with
  | refl => exact ⟨left, hr, fun i => rfl, Nat.zero_add _, hs⟩
  | step past i h ih =>
    obtain ⟨left₁, hkeeps, hleft, hcreated, hps⟩ := ih
    obtain ⟨left₂, hkeeps', hleft', x, hx, heffect⟩ := hkeeps.step ht h
    refine ⟨left₂, hkeeps', fun j => ?_, ?_, hp x hx _ _ heffect hps⟩
    · rw [requests, ← hleft j, ← hleft' j]
      omega
    · rw [created, ← creates_add ht h, ← hcreated]
      omega

end Race

/-! ### What comes of a race -/

/-- A race among programs that make sure of one collection, each of them a number of times. -/
def Race.start (server : σ) (callers : List (Handle × Nat)) :
    Race σ (List (Except Fault Unit)) :=
  ⟨server, callers.map fun x => x.1.ensureTimes x.2⟩

/-- What comes of programs that make sure of one collection, wherever their race has got to: those
that have ended have their results, which count for good, and the others go on. -/
structure Agreement (shape? : σ → Option Shape) (collection : String)
    (callers : List (Handle × Nat)) {server : σ} {v : Race σ (List (Except Fault Unit))}
    (run : Race.Run answer (Race.start server callers) v) : Prop where
  /-- A program makes at most four requests each time, whatever the others do, -/
  requests : ∀ i (hi : i < callers.length), run.requests i ≤ 4 * callers[i].2
  /-- and as long as it has not ended, its next request is answered. -/
  goesOn : ∀ i < callers.length, v.result? i = none → (v.step? answer i).isSome
  /-- Who has ended has a result for each time. -/
  results : ∀ i (hi : i < callers.length) rs, v.result? i = some rs → rs.length = callers[i].2
  /-- The collection is created at most once, and not at all if it was there. -/
  once : run.created collection + (shape? server).isSome.toNat =
    (shape? v.server).isSome.toNat
  /-- All is well with those, and only those, whose vectors have the length of the vectors that the
  collection has in the end. -/
  fits : ∀ i (hi : i < callers.length) rs, v.result? i = some rs → ∀ x ∈ rs,
    (x = .ok () ↔
      (shape? v.server).bind Shape.length? = some callers[i].1.settings.dimension)
  /-- The others are told that length. -/
  mismatch : ∀ i (hi : i < callers.length) rs, v.result? i = some rs → ∀ x ∈ rs, x ≠ .ok () →
    x = .error (.collectionDimension collection callers[i].1.settings.dimension
      (((shape? v.server).bind Shape.length?).getD 0))
  /-- Programs that agree on the length do well where there was no collection. -/
  alike : ∀ d, shape? server = none → (∀ x ∈ callers, x.1.settings.dimension = d) →
    ∀ i < callers.length, ∀ rs, v.result? i = some rs → ∀ x ∈ rs, x = .ok ()

/-- The programs of a race have all their requests left at its start. -/
private theorem Race.start_keeps (ht : Truthful answer shape? collection)
    {callers : List (Handle × Nat)} (hname : ∀ x ∈ callers, x.1.settings.collection = collection)
    (server : σ) : Keeps answer (callers.map (Handle.promise shape?))
      (fun i => 4 * ((callers[i]?).elim 0 (·.2))) (Race.start server callers) where
  length := by simp [start]
  leads {i p t} hp hi := by
    rw [List.getElem?_map] at hp
    rw [start, List.getElem?_map] at hi
    cases hx : callers[i]? with
    | none => rw [hx] at hp; cases hp
    | some x =>
      rw [hx] at hp hi
      cases hp
      cases hi
      have hcollection := hname x (List.mem_of_getElem? hx)
      exact Handle.ensureTimes_leads (hcollection ▸ ht) x.2 server

/-- The result of making sure of a collection says whether the lengths agree. -/
theorem Handle.IsRight.eq_ok_iff {h : Handle} {s : σ} {x : Except Fault Unit}
    (hx : h.IsRight shape? s x) (hpos : 1 ≤ h.settings.dimension) :
    x = .ok () ↔ (shape? s).bind Shape.length? = some h.settings.dimension := by
  obtain ⟨shape, hshape, rfl⟩ := hx
  rw [hshape, verdict, Option.bind_some]
  cases hlength : shape.length? with
  | none =>
    have hne : (none : Option Nat).getD 0 ≠ h.settings.dimension := fun heq => by
      rw [← heq] at hpos
      cases hpos
    rw [if_neg hne]
    exact ⟨nofun, nofun⟩
  | some n =>
    by_cases heq : n = h.settings.dimension
    · simp [heq]
    · simp [heq]

theorem Handle.IsRight.eq_error {h : Handle} {s : σ} {x : Except Fault Unit}
    (hx : h.IsRight shape? s x) (hne : x ≠ .ok ()) :
    x = .error (.collectionDimension h.settings.collection h.settings.dimension
      (((shape? s).bind Shape.length?).getD 0)) := by
  obtain ⟨shape, hshape, rfl⟩ := hx
  rw [verdict] at hne ⊢
  split at hne
  · exact absurd rfl hne
  · rename_i hlength
    rw [if_neg hlength, hshape]
    rfl

/-- **Making sure of one collection together.** -/
theorem Race.Run.agreement (ht : Truthful answer shape? collection)
    {callers : List (Handle × Nat)} (hname : ∀ x ∈ callers, x.1.settings.collection = collection)
    (hpos : ∀ x ∈ callers, 1 ≤ x.1.settings.dimension) {server : σ}
    {v : Race σ (List (Except Fault Unit))} (run : Run answer (Race.start server callers) v) :
    Agreement shape? collection callers run := by
  -- The collection is as it was at the start, or has the vectors of one of the programs.
  obtain ⟨left, hkeeps, hleft, hcreated, hshape⟩ := run.keeps ht
    (Race.start_keeps ht hname server) (p := fun s => shape? s = shape? server ∨
      ∃ x ∈ callers, shape? s = some (.single x.1.settings.dimension))
    (fun y hy s s' heffect hs => by
      obtain ⟨x, hx, rfl⟩ := List.mem_map.mp hy
      rcases heffect with heq | heq
      · rwa [heq]
      · exact .inr ⟨x, hx, heq⟩)
    (.inl rfl)
  have hright : ∀ i (hi : i < callers.length) rs, v.result? i = some rs →
      rs.length = callers[i].2 ∧ ∀ x ∈ rs, callers[i].1.IsRight shape? v.server x := by
    intro i hi rs hrs
    have hp : (callers.map (Handle.promise shape?))[i]? =
        some (Handle.promise shape? callers[i]) := by
      rw [List.getElem?_map, List.getElem?_eq_getElem hi]
      rfl
    have hresult := hkeeps.leads hp (result?_eq_some hrs)
    rw [Leads.done] at hresult
    exact hresult
  have hlength : v.parties.length = callers.length := by rw [hkeeps.length, List.length_map]
  refine
    { requests := fun i hi => ?requests
      goesOn := fun i hi => isSome_step? (hlength ▸ hi)
      results := fun i hi rs hrs => (hright i hi rs hrs).1
      once := hcreated
      fits := fun i hi rs hrs x hx => ?fits
      mismatch := fun i hi rs hrs x hx hne => ?mismatch
      alike := fun d habsent hd i hi rs hrs x hx => ?alike }
  case requests =>
    have hi' := hleft i
    rw [List.getElem?_eq_getElem hi] at hi'
    exact Nat.le.intro ((Nat.add_comm _ _).trans hi')
  case fits =>
    exact ((hright i hi rs hrs).2 x hx).eq_ok_iff (hpos _ (List.getElem_mem hi))
  case mismatch =>
    rw [((hright i hi rs hrs).2 x hx).eq_error hne, hname _ (List.getElem_mem hi)]
  case alike =>
    have hx := (hright i hi rs hrs).2 x hx
    rw [hx.eq_ok_iff (hpos _ (List.getElem_mem hi)), hd _ (List.getElem_mem hi)]
    obtain ⟨shape, hthere, -⟩ := hx
    rcases hshape with heq | ⟨y, hy, heq⟩
    · rw [heq, habsent] at hthere
      cases hthere
    · rw [heq, hd y hy]
      rfl

/-! ### Three programs -/

/-- The race after the parties that are listed have gone one step further each, first one first. -/
def Race.follow (answer : (q : Request) → σ → q.Answer × σ) (r : Race σ R) :
    List Nat → Option (Race σ R)
  | [] => some r
  | i :: rest => (r.step? answer i).bind (follow answer · rest)

/-- A course that a race takes if the parties that are listed go on after it. -/
def Race.Run.andThen {r s v : Race σ R} (past : Run answer r s) (order : List Nat)
    (h : s.follow answer order = some v) : Run answer r v :=
  match order, h with
  | [], h => Option.some.inj h ▸ past
  | i :: rest, h =>
    match hstep : s.step? answer i with
    | some t =>
      (past.step i hstep).andThen rest (by simpa [follow, hstep] using h)
    | none => absurd h (by simp [follow, hstep])

namespace ThreeCallers

/-- Two programs with vectors of one length, of which one makes sure of the collection twice, and
one with longer vectors. -/
def callers : List (Handle × Nat) :=
  [3, 3, 4].zip [2, 1, 1] |>.map fun (n, times) =>
    ({ settings := { Config.Store.standard with dimension := n } }, times)

/-- All of them find no collection, and the second one is the first to create it. -/
def order : List Nat := [0, 1, 2, 1, 0, 2, 0, 2, 2, 0, 0, 0]

theorem isSome_follow :
    ((Race.start ⟨[]⟩ callers).follow Server.answer order).isSome := by
  decide +kernel

end ThreeCallers

/-- Nobody fails where the lengths agree, although two programs try to create the collection too
late. -/
theorem Race.Run.agreement_threeCallers :
    ∃ (v : Race Server _) (run : Run Server.answer (Race.start ⟨[]⟩ ThreeCallers.callers) v),
      v.isOver ∧ run.created "logs" = 1 ∧ v.result? 0 = some [.ok (), .ok ()] ∧
      v.result? 2 = some [.error (.collectionDimension "logs" 4 3)] ∧
      Agreement (Server.shape? · "logs") "logs" ThreeCallers.callers run :=
  ⟨_, Run.refl.andThen ThreeCallers.order (Option.some_get ThreeCallers.isSome_follow).symm,
    by decide +kernel, by decide +kernel, by decide +kernel, by decide +kernel,
    agreement (Server.truthful "logs") (by decide +kernel) (by decide +kernel) _⟩

end LogIntake.Store
