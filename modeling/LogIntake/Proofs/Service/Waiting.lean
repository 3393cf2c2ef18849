import LogIntake.Proofs.Pipeline.Punctual
import LogIntake.Proofs.Service.Requests

/-!
# How long requests wait

A request waits while one of its offers waits for room in a queue. Where everything happens
promptly one offer waits no longer than the settings allow (`Answered.now_le`), and a request ends
with the first offer that is refused, so all that it can wait for in vain is one such time.

Its other offers may have to wait too before they are accepted, each of them for as long. The times
add up: `boundedWaiting` bounds what a request waits by one time for each accepted entry
and one more, and `not_forall_now_le_one` shows that one time is not enough.
-/

namespace LogIntake

open Pipeline

namespace Pipeline

/-! ### One offer -/

/-- What can happen promptly while somebody waits for the answer to an offer: time passes only as
long as there is none. -/
inductive Awaits (ticket : Nat) (w : World) : World → Prop where
  | refl : Awaits ticket w w
  | step {v u : World} (a : Action) (h : Awaits ticket w v) (hallows : v.allows a = true)
      (hstep : v.apply a = some u)
      (hwaits : ∀ till, a = .wait till → Schedule.answer? v ticket = none) : Awaits ticket w u

/-- How an offer goes: it is made before any time passes, and its answer is waited for. -/
inductive Answered (w : World) (e : Entry) (answer : Except Fault Unit) (v : World) : Prop where
  | intro {u : World} (hbefore : ReachesPromptly w u) (hnow : u.now = w.now)
      (hawaits : Awaits u.offers.length (u.offer e) v)
      (hanswer : Schedule.answer? v u.offers.length = some answer)

namespace World

variable {w v : World} {t : Nat} {o : Offer}

/-- An offer that goes on to wait does so until the same time as before. -/
theorem waits_of_apply {a : Action} (h : w.apply a = some v) (ho : w.offers[t]? = some o) :
    ∃ o', v.offers[t]? = some o' ∧ o.SameWait o' := by
  obtain ⟨ht, rfl⟩ := List.getElem?_eq_some_iff.mp ho
  obtain ⟨i, k, -, -, hworks⟩ | ⟨-, hoccurs⟩ := apply_cases h
  · have hwaits := hworks.waits
    have ht' : t < v.offers.length := hwaits.length_eq ▸ ht
    exact ⟨v.offers[t], List.getElem?_eq_getElem ht', hwaits.get ht ht'⟩
  · obtain ⟨old, new, hoffers, hold, -⟩ := hoccurs.waits
    have ht' : t < old.length := hold.length_eq ▸ ht
    refine ⟨old[t], ?_, hold.get ht ht'⟩
    rw [hoffers, List.getElem?_append_left ht', List.getElem?_eq_getElem ht']

/-- Whoever has no answer waits. -/
theorem waiting_of_answer? (ho : w.offers[t]? = some o) (h : Schedule.answer? w t = none) :
    ∃ till granted, o.state = .waiting till granted := by
  rw [Schedule.answer?, ho] at h
  cases hstate : o.state with
  | waiting till granted => exact ⟨till, granted, rfl⟩
  | accepted id => simp [hstate] at h
  | refused f => simp [hstate] at h

end World

namespace Awaits

variable {ticket : Nat} {w v : World}

theorem reachesPromptly (h : Awaits ticket w v) : ReachesPromptly w v := by
  induction h with
  | refl => exact .refl
  | step a _ hallows hstep _ ih => exact .step a ih hallows hstep

/-- The clock does not pass the end of the wait. -/
theorem now_le (h : Awaits ticket w v) (hw : w.Punctual) (htidy : w.Tidy) {o : Offer}
    (ho : w.offers[ticket]? = some o) {limit : Nat} (hnow : w.now ≤ limit)
    (hlimit : ∀ till granted, o.state = .waiting till granted → till ≤ limit) :
    v.now ≤ limit ∧ ∃ o', v.offers[ticket]? = some o' ∧
      ∀ till granted, o'.state = .waiting till granted → till ≤ limit := by
  induction h with
  | refl => exact ⟨hnow, o, ho, hlimit⟩
  | @step v u a h hallows hstep hwaits ih =>
    obtain ⟨hle, o', ho', hlimit'⟩ := ih
    obtain ⟨o'', ho'', hsame⟩ := World.waits_of_apply hstep ho'
    have hlimit'' : ∀ till granted, o''.state = .waiting till granted → till ≤ limit := by
      intro till granted hstate
      obtain ⟨-, g, hbefore⟩ := hsame till granted hstate
      exact hlimit' till g hbefore
    refine ⟨?_, o'', ho'', hlimit''⟩
    rcases World.passes_or_stands hstep with ⟨till, rfl, -, -⟩ | hstands
    · obtain ⟨till', granted, hstate⟩ := World.waiting_of_answer? ho' (hwaits till rfl)
      have hpunctual : u.Punctual := (h.reachesPromptly.punctual hw htidy).apply
        (h.reachesPromptly.reaches.tidy htidy) hallows hstep
      obtain ⟨-, rfl⟩ := World.apply_wait hstep
      have hsooner := (hpunctual.offers o' (List.mem_of_getElem? ho') till' granted hstate).1
      exact Nat.le_trans hsooner (hlimit' till' granted hstate)
    · rw [hstands]
      exact hle

end Awaits

namespace Answered

variable {w v : World} {e : Entry} {answer : Except Fault Unit}

theorem reachesPromptly (h : Answered w e answer v) : ReachesPromptly w v := by
  cases h with
  | intro hbefore hnow hawaits hanswer =>
    exact (hbefore.step (.offer e) rfl rfl).trans hawaits.reachesPromptly

/-- **An offer is answered in time.** -/
theorem now_le (h : Answered w e answer v) (hw : w.Punctual) (htidy : w.Tidy) :
    v.now ≤ w.now + w.settings.enqueueTimeout := by
  cases h with
  | @intro u hbefore hnow hawaits hanswer =>
    obtain ⟨r⟩ := hbefore.reaches.run
    have hoffered : ReachesPromptly w (u.offer e) := hbefore.step (.offer e) rfl rfl
    have hnow' : (u.offer e).now = u.now := World.now_of_apply (a := .offer e) rfl nofun
    obtain ⟨o, ho, -, -, hwaits⟩ := u.exists_offer e
    refine (hawaits.now_le (hoffered.punctual hw htidy) (hoffered.reaches.tidy htidy) ho ?_ ?_).1
    · rw [hnow', hnow]
      exact Nat.le_add_right _ _
    · intro till granted hstate
      rw [hwaits till granted hstate, hnow, r.fixed.settings]

end Answered

end Pipeline

namespace Service

namespace Tally

variable {σ : Type} (world : σ → World) (offer : σ → Entry → Except Fault Unit × σ)

/-- Each offer that is made for the entries of a request is made and answered promptly. -/
def IsPrompt (t : Tally) (x : σ) : List (Nat × Entry) → Prop
  | [] => True
  | (line, e) :: rest =>
    (t.halted = none → Answered (world x) e (offer x e).1 (world (offer x e).2)) ∧
      IsPrompt (t.take offer x line e).1 (t.take offer x line e).2 rest

variable {world offer}

/-- As long as no offer has been refused every offer is accepted, and the first that is refused is
the last one. -/
theorem takeAll_now_le {t : Tally} {x : σ} {entries : List (Nat × Entry)}
    (h : IsPrompt world offer t x entries) (hw : (world x).Punctual) (htidy : (world x).Tidy) :
    ∃ n, (takeAll offer t x entries).1.accepted = t.accepted + n ∧
      (world (takeAll offer t x entries).2).now ≤
        (world x).now + (n + 1) * (world x).settings.enqueueTimeout := by
  induction entries generalizing t x with
  | nil => exact ⟨0, rfl, Nat.le_add_right _ _⟩
  | cons p rest ih =>
    obtain ⟨hfirst, hrest⟩ := h
    cases hhalted : t.halted with
    | some f =>
      obtain ⟨haccepted, hsame⟩ := takeAll_of_halted offer (p :: rest) x hhalted
      rw [haccepted, hsame]
      exact ⟨0, rfl, Nat.le_add_right _ _⟩
    | none =>
      have hanswered := hfirst hhalted
      have hnow := hanswered.now_le hw htidy
      rw [takeAll_cons]
      cases hanswer : (offer x p.2).1 with
      | error f =>
        rw [take_of_error p.1 hhalted hanswer]
        obtain ⟨haccepted, hsame⟩ := takeAll_of_halted offer rest
          (t := { t.reject (some p.1) f with halted := some (haltOf f) }) (offer x p.2).2 rfl
        rw [haccepted, hsame]
        refine ⟨0, rfl, ?_⟩
        rw [Nat.zero_add, Nat.one_mul]
        exact hnow
      | ok u =>
        rw [take_of_ok p.1 hhalted hanswer] at hrest ⊢
        have hreaches := hanswered.reachesPromptly
        obtain ⟨r⟩ := hreaches.reaches.run
        obtain ⟨n, haccepted, hlater⟩ :=
          ih hrest (hreaches.punctual hw htidy) (hreaches.reaches.tidy htidy)
        refine ⟨n + 1, ?_, ?_⟩
        · rw [haccepted]
          exact Nat.add_right_comm _ _ _
        · rw [r.fixed.settings] at hlater
          rw [Nat.succ_mul (n + 1)]
          dsimp only at hlater ⊢
          omega

/-- Each offer that is made for the lines of a body is made and answered promptly. -/
def IsPromptFor (world : σ → World) (offer : σ → Entry → Except Fault Unit × σ) (x : σ)
    (r : Reading) : Prop :=
  IsPrompt world offer (r.faults.foldl (fun t f => t.reject f.line? f) {}) x r.entries

end Tally

/-- **How long requests wait** in the runs of a pipeline. -/
structure BoundedWaiting (s : Settings) (c : Client) (b : Backend) : Prop where
  /-- The answer to one offer comes in time. -/
  offer : ∀ {w v : World} {e : Entry} {answer : Except Fault Unit},
    ReachesPromptly (.start s c b) w → Answered w e answer v → v.now ≤ w.now + s.enqueueTimeout
  /-- The answer to a request comes after as many such times as entries were accepted, and one
  more, if not before. -/
  request : ∀ {σ : Type} {world : σ → World} {offer : σ → Entry → Except Fault Unit × σ} {x : σ}
    {body : List UInt8}, ReachesPromptly (.start s c b) (world x) →
      Tally.IsPromptFor world offer x (Reading.ofBody body) →
        (world (Tally.ofReading offer x (Reading.ofBody body)).2).now ≤ (world x).now +
          ((Tally.ofReading offer x (Reading.ofBody body)).1.accepted + 1) * s.enqueueTimeout

/-- **Requests wait for a bounded time**, whatever the pipeline is and whatever else happens in
it. -/
theorem boundedWaiting (s : Settings) (c : Client) (b : Backend) : BoundedWaiting s c b where
  offer {w v e answer} hw h := by
    obtain ⟨r⟩ := hw.reaches.run
    have hnow := h.now_le hw.punctual_of_start hw.reaches.tidy_of_start
    rw [r.fixed.settings] at hnow
    exact hnow
  request {σ world offer x body} hw h := by
    obtain ⟨r⟩ := hw.reaches.run
    obtain ⟨n, haccepted, hnow⟩ :=
      Tally.takeAll_now_le h hw.punctual_of_start hw.reaches.tidy_of_start
    rw [Tally.foldl_reject, Nat.zero_add] at haccepted
    rw [r.fixed.settings] at hnow
    rw [Tally.ofReading, haccepted]
    exact hnow

/-! ### A request that waits longer than one offer may -/

/-- A producer in a run that is known: what happens while it waits for each of its answers. -/
structure Recorded where
  world : World
  waits : List (List Action)

namespace Recorded

/-- Whether something can happen promptly while somebody waits for the answer to an offer. -/
def mayCome (ticket : Nat) (w : World) (a : Action) : Bool :=
  w.allows a && match a with
    | .wait _ => (Schedule.answer? w ticket).isNone
    | .work _ | .offer _ | .settle _ | .close | .stop => true

/-- The world after what happens while somebody waits for the answer to an offer. -/
def await (ticket : Nat) (w : World) : List Action → Option World
  | [] => some w
  | a :: rest => if mayCome ticket w a then (w.apply a).bind (await ticket · rest) else none

/-- The world in which the wait for the answer to an offer ends. -/
def offered (x : Recorded) (e : Entry) : Option World :=
  await x.world.offers.length (x.world.offer e) (x.waits.headD [])

def offer (x : Recorded) (e : Entry) : Except Fault Unit × Recorded :=
  let v := (x.offered e).getD (x.world.offer e)
  ((Schedule.answer? v x.world.offers.length).getD (.error .closed), ⟨v, x.waits.tail⟩)

/-- Whether an offer is made and answered promptly. -/
def answers (x : Recorded) (e : Entry) : Bool :=
  match x.offered e with
  | some v => (Schedule.answer? v x.world.offers.length).isSome
  | none => false

/-- Whether each offer is made and answered promptly. -/
def isPrompt (t : Tally) (x : Recorded) : List (Nat × Entry) → Bool
  | [] => true
  | (line, e) :: rest =>
    (t.halted.isSome || x.answers e) &&
      isPrompt (t.take offer x line e).1 (t.take offer x line e).2 rest

theorem awaits_of_await {ticket : Nat} {w₀ w v : World} {as : List Action}
    (hw : Awaits ticket w₀ w) (h : await ticket w as = some v) : Awaits ticket w₀ v := by
  induction as generalizing w with
  | nil =>
    cases h
    exact hw
  | cons a rest ih =>
    rw [await] at h
    split at h
    · rename_i hcomes
      obtain ⟨hallows, hwaits⟩ := Bool.and_eq_true_iff.mp hcomes
      obtain ⟨u, hstep, hrest⟩ := Option.bind_eq_some_iff.mp h
      refine ih (hw.step a hallows hstep ?_) hrest
      rintro till rfl
      simpa using hwaits
    · cases h

theorem answered {x : Recorded} {e : Entry} (h : x.answers e = true) :
    Answered x.world e (x.offer e).1 (x.offer e).2.world := by
  rw [answers] at h
  split at h
  · rename_i v hv
    obtain ⟨answer, hanswer⟩ := Option.isSome_iff_exists.mp h
    have hoffer : x.offer e = (answer, ⟨v, x.waits.tail⟩) := by
      simp only [offer, hv, Option.getD_some, hanswer]
    rw [hoffer]
    exact .intro .refl rfl (awaits_of_await .refl hv) hanswer
  · cases h

theorem isPrompt_of {t : Tally} {x : Recorded} {entries : List (Nat × Entry)}
    (h : isPrompt t x entries = true) : Tally.IsPrompt Recorded.world offer t x entries := by
  induction entries generalizing t x with
  | nil => trivial
  | cons p rest ih =>
    obtain ⟨hfirst, hrest⟩ := Bool.and_eq_true_iff.mp h
    refine ⟨fun hhalted => answered ?_, ih hrest⟩
    simpa [hhalted] using hfirst

end Recorded

namespace LongRequest

/-- One worker with room for one entry, for which an offer waits up to 100 ms. -/
def settings : Settings where
  workers := 1
  queueCapacity := 1
  enqueueTimeout := 100
  maxBatchSize := 10
  maxBatchAge := 5000
  flushRetry := .standard
  shutdownTimeout := 1000
  dedup := ⟨.one, 3, 10, 1000, 10⟩

def client : Client := ⟨1, 1000, .standard⟩

/-- It takes 90 ms to embed an entry. -/
def backend : Backend where
  embed _ _ := .after 90 (.gives [.one])
  insert _ := .after 0 (.gives ())
  check _ := .after 0 (.gives ())

def entry (source : String) : Entry := ⟨default, "m", source, []⟩

/-- One entry is being embedded, and another one fills the queue. -/
def busy? : Option World :=
  (World.start settings client backend).follow
    [.offer (entry "a"), .work 0, .work 0, .offer (entry "b")]

theorem isSome_busy? : busy?.isSome = true := by decide +kernel

/-- The two entries of the request get room when the one before each of them is taken. -/
def producer : Recorded :=
  ⟨busy?.get isSome_busy?, [[.wait 90, .work 0, .work 0, .settle 2],
    [.work 0, .wait 180, .work 0, .work 0, .settle 3]]⟩

def line (source : String) : String :=
  "\x7b\"timestamp\":0,\"message\":\"m\",\"source\":\"" ++ source ++ "\"\x7d\n"

def body : List UInt8 := (line "c" ++ line "d").toUTF8.toList

theorem ofBody_body : Reading.ofBody body = ⟨[(1, entry "c"), (2, entry "d")], []⟩ := by
  decide +kernel

end LongRequest

/-- A request may wait longer than one offer may: the waits of its offers add up. -/
theorem not_forall_now_le_one : ¬ ∀ (s : Settings) (c : Client) (b : Backend) (σ : Type)
    (world : σ → World) (offer : σ → Entry → Except Fault Unit × σ) (x : σ) (body : List UInt8),
      s.check = .ok () → ReachesPromptly (.start s c b) (world x) →
        Tally.IsPromptFor world offer x (Reading.ofBody body) →
          (world (Tally.ofReading offer x (Reading.ofBody body)).2).now ≤
            (world x).now + s.enqueueTimeout := by
  intro h
  have hbusy : ReachesPromptly
      (.start LongRequest.settings LongRequest.client LongRequest.backend)
      LongRequest.producer.world :=
    reachesPromptly_of_follow (Option.some_get LongRequest.isSome_busy?).symm
  have hprompt : Tally.IsPromptFor Recorded.world Recorded.offer LongRequest.producer
      (Reading.ofBody LongRequest.body) := by
    rw [LongRequest.ofBody_body]
    exact Recorded.isPrompt_of (by decide +kernel)
  have hnow := h LongRequest.settings LongRequest.client LongRequest.backend Recorded
    Recorded.world Recorded.offer LongRequest.producer LongRequest.body (by decide +kernel) hbusy
    hprompt
  rw [LongRequest.ofBody_body] at hnow
  exact absurd hnow (by decide +kernel)

end Service

end LogIntake
