import LogIntake.Proofs.Pipeline.Punctual

/-!
# Pipelines with reliable backends

A provider is **reliable** if what it says of a text depends on the text alone and is said in
time, and a store is reliable if it takes every batch, however late. With reliable backends the
end of a call is known before it is made: whether an entry is embedded, and with which vector,
follows from its text (`vector?`), and every batch is stored.

`Phase.IsSure` says of a worker that its calls are going to end in this way. Every step keeps
this (`Works.isSure`), and `Phase.IsSure` tells how a call has ended once it has.
-/

namespace LogIntake

/-- The response that gives a result. -/
def Response.of {α : Type} : Except Fault α → Response α
  | .ok a => .gives a
  | .error f => .fails f

/-! ### Calls -/

namespace Call

/-- Any attempt that is under way ends with a response, and in time. -/
def IsSure {α : Type} (response : Response α) (c : Call α) : Prop :=
  match c.stage with
  | .calling due r limit _ => r = response ∧ ∀ l ∈ limit, due ≤ l
  | .ready | .resting _ => True

variable {α : Type} {b : Backoff} {limit : Option Nat} {late : Fault} {reply : Unit → Reply α}
  {now : Nat} {c c' : Call α} {response r : Response α}

theorem isSure_start (b : Backoff) : (start b).IsSure response :=
  trivial

/-- An attempt that ends in time ends as the backend says. -/
theorem eq_of_ends {due : Nat} (h : Ends now due response limit late r)
    (hlimit : ∀ l ∈ limit, due ≤ l) : r = response := by
  cases h with
  | answered _ => rfl
  | timedOut hlate hl hle => exact absurd (hlimit _ hl) (by omega)

theorem IsSure.ended (hc : c.IsSure response) (h : c.Goes b limit late reply now (.ended r)) :
    r = response := by
  cases h with
  | ends hcalling hends hlast =>
    rw [IsSure, hcalling] at hc
    rw [eq_of_ends hends hc.2, hc.1]

theorem IsSure.moved (h : c.Goes b limit late reply now (.moved c')) : c'.IsSure response := by
  cases h <;> trivial

theorem IsSure.began (h : c.Goes b limit late reply now (.began c'))
    (hresponse : (reply ()).response = response) (hdelay : ∀ l ∈ limit, (reply ()).delay ≤ l) :
    c'.IsSure response := by
  cases h with
  | begins hready =>
    refine ⟨hresponse, fun l hl => ?_⟩
    obtain ⟨m, hm, rfl⟩ := Option.map_eq_some_iff.mp hl
    exact Nat.add_le_add_left (hdelay m hm) now

end Call

/-! ### Embedding -/

/-- The vector that a text is going to get, if it gets one. -/
def vector? (outcome : String → Except Fault Embedding) (dimension : Nat) (text : String) :
    Option Embedding :=
  if Text.isBlankText text then none
  else
    match outcome text with
    | .ok v => if v.length = dimension then some v else none
    | .error _ => none

namespace Client

variable {c : Client} {text : String} {reply : Unit → Reply Embedding} {now : Nat}
  {call call' : Call Embedding} {outcome : String → Except Fault Embedding}

/-- A call for a text is going to end as the provider says of the text; no attempt is made for a
blank one. -/
structure IsSure (outcome : String → Except Fault Embedding) (text : String)
    (call : Call Embedding) : Prop where
  sure : call.IsSure (.of (outcome text))
  unasked : Text.isBlankText text = true → call.attempts = 0

theorem isSure_start (c : Client) : IsSure outcome text c.start :=
  ⟨Call.isSure_start _, fun _ => rfl⟩

/-- A step with which a call goes on is made for a text that is not blank. -/
theorem IsSure.goesOn (h : IsSure outcome text call)
    (hstep : c.step text reply now call = .began call' ∨
      c.step text reply now call = .moved call') :
    Text.isBlankText text = false := by
  cases hblank : Text.isBlankText text with
  | false => rfl
  | true =>
    rw [step, if_pos ⟨h.unasked hblank, hblank⟩] at hstep
    simp at hstep

theorem IsSure.moved (h : IsSure outcome text call)
    (hstep : c.step text reply now call = .moved call') : IsSure outcome text call' := by
  refine ⟨.moved (step_goes hstep (.inr rfl)), fun hblank => ?_⟩
  rw [h.goesOn (.inr hstep)] at hblank
  cases hblank

theorem IsSure.began (h : IsSure outcome text call)
    (hstep : c.step text reply now call = .began call')
    (hresponse : (reply ()).response = .of (outcome text)) (hdelay : (reply ()).delay ≤ c.timeout) :
    IsSure outcome text call' := by
  refine ⟨.began (step_goes hstep (.inl rfl)) hresponse fun l hl => ?_, fun hblank => ?_⟩
  · cases hl
    exact hdelay
  · rw [h.goesOn (.inl hstep)] at hblank
    cases hblank

/-- What a call comes to for a text. -/
def Settles (outcome : String → Except Fault Embedding) (dimension : Nat) (text : String) :
    Response Embedding → Prop
  | .gives v => vector? outcome dimension text = some v
  | .fails _ => vector? outcome dimension text = none
  | .breaks => False

/-- A call ends as the text says. -/
theorem IsSure.ended (h : IsSure outcome text call) {r : Response Embedding}
    (hstep : c.step text reply now call = .ended r) : Settles outcome c.dimension text r := by
  rw [step] at hstep
  split at hstep
  · rename_i hblank
    cases hstep
    exact if_pos hblank.2
  · rename_i hasked
    have hblank : Text.isBlankText text = false := by
      cases hblank : Text.isBlankText text with
      | false => rfl
      | true => exact absurd ⟨h.unasked hblank, hblank⟩ hasked
    have hgoes := Call.goes_step c.retry (some c.timeout) c.lateFault reply now call
    cases hprogress : call.step c.retry (some c.timeout) c.lateFault reply now with
    | began _ | moved _ | blocked => simp [hprogress] at hstep
    | ended r' =>
      rw [hprogress] at hgoes hstep
      have hsure := h.sure.ended hgoes
      subst hsure
      cases houtcome : outcome text with
      | error f =>
        rw [houtcome] at hstep
        cases hstep
        simp [Settles, vector?, hblank, houtcome]
      | ok v =>
        rw [houtcome] at hstep
        simp only [Response.of, Progress.ended.injEq] at hstep
        subst hstep
        rw [checkLength]
        split <;> simp [Settles, vector?, *]

end Client

/-! ### Workers -/

namespace Pipeline

/-- Both backends are reliable. -/
structure Backend.IsReliable (b : Backend) (timeout : Nat)
    (outcome : String → Except Fault Embedding) : Prop where
  answers : ∀ earlier text, (b.embed earlier text).response = .of (outcome text)
  inTime : ∀ earlier text, (b.embed earlier text).delay ≤ timeout
  takes : ∀ n, (b.insert n).response = .gives ()

variable {outcome : String → Except Fault Embedding}

/-- The call for an entry that is at hand is going to end as its text says. -/
def Next.IsSure (outcome : String → Except Fault Embedding) : Next → Prop
  | .embed item call => Client.IsSure outcome item.entry.message call
  | .resume | .finish => True

/-- The calls of a worker are going to end as the texts say, and with stored batches. -/
def Phase.IsSure (outcome : String → Except Fault Embedding) : Phase → Prop
  | .embedding item call => Client.IsSure outcome item.entry.message call
  | .writing _ call next => call.IsSure (.gives ()) ∧ next.IsSure outcome
  | .idle | .stopped | .broken => True

theorem Next.IsSure.proceed {next : Next} (h : next.IsSure outcome) (k : Worker) :
    (k.proceed next).phase.IsSure outcome := by
  cases next <;> exact h

theorem Next.IsSure.flush {next : Next} (h : next.IsSure outcome) (b : Backoff) (k : Worker) :
    (k.flush b next).phase.IsSure outcome := by
  rw [Worker.flush]
  split
  · exact h.proceed _
  · exact ⟨Call.isSure_start b, h⟩

namespace World

variable {w v : World} {i : Nat} {k : Worker} (hb : w.backend.IsReliable w.client.timeout outcome)
  (hk : k.phase.IsSure outcome)
include hk

/-- An entry is embedded as its text says. -/
theorem settles_of_embedding {item : Item} {call : Call Embedding} {r : Response Embedding}
    (hphase : k.phase = .embedding item call) (hstep : w.embedProgress item call = .ended r) :
    Client.Settles outcome w.client.dimension item.entry.message r := by
  rw [hphase] at hk
  exact hk.ended hstep

/-- Every batch is stored. -/
theorem gives_of_writing {batch : Batch} {call : Call Unit} {next : Next} {r : Response Unit}
    (hphase : k.phase = .writing batch call next) (hstep : w.writeProgress call = .ended r) :
    r = .gives () := by
  rw [hphase] at hk
  exact hk.1.ended (goes_of_writeProgress hstep)

include hb

/-- **With reliable backends all calls stay sure.** -/
theorem Works.isSure (h : w.Works i k v) :
    ∃ k', v.workers = w.workers.set i k' ∧ k'.phase.IsSure outcome := by
  cases h
  case flushes | fills =>
    exact ⟨_, rfl, Next.IsSure.flush (show Next.IsSure outcome .resume from trivial) _ _⟩
  case drains =>
    exact ⟨_, rfl, Next.IsSure.flush (show Next.IsSure outcome .finish from trivial) _ _⟩
  case interrupts item call hphase _ _ =>
    rw [hphase] at hk
    exact ⟨_, rfl, Next.IsSure.flush (show Next.IsSure outcome (.embed item call) from hk) _ _⟩
  case takes => exact ⟨_, rfl, Client.isSure_start _⟩
  case asks hphase hover hdue hstep =>
    rw [hphase] at hk
    exact ⟨_, rfl, hk.began hstep (hb.answers _ _) (hb.inTime _ _)⟩
  case rests hphase hover hdue hstep =>
    rw [hphase] at hk
    exact ⟨_, rfl, hk.moved hstep⟩
  case writes hphase hover hstep =>
    rw [hphase] at hk
    exact ⟨_, rfl, .began (goes_of_writeProgress hstep) (hb.takes _) (fun _ hl => nomatch hl),
      hk.2⟩
  case pauses hphase hover hstep =>
    rw [hphase] at hk
    exact ⟨_, rfl, .moved (goes_of_writeProgress hstep), hk.2⟩
  case stores hphase _ _ | drops hphase _ _ =>
    rw [hphase] at hk
    exact ⟨_, rfl, hk.2.proceed _⟩
  all_goals exact ⟨_, rfl, trivial⟩

end World

end Pipeline

end LogIntake
