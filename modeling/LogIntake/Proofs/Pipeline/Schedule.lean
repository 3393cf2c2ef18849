import LogIntake.Pipeline.Schedule

/-!
# Schedules are runs

Whatever a schedule does to the world of a pipeline is a sequence of steps of that world: a turn
of a worker (`World.reaches_takeTurn`), a round (`Schedule.reaches_round`), a move of the clock
(`Schedule.reaches_tick`) and so all that happens while the caller waits (`Schedule.await_spec`).
What holds in all worlds that can come about holds in schedules.
-/

namespace LogIntake.Pipeline

namespace Reaches

variable {w v u : World}

theorem trans (h : Reaches w v) (h' : Reaches v u) : Reaches w u := by
  induction h' with
  | refl => exact h
  | step a _ hstep ih => exact .step a ih hstep

theorem single {a : Action} (h : w.apply a = some v) : Reaches w v :=
  .step a .refl h

end Reaches

namespace World

theorem reaches_goOn (i turn : Nat) (w : World) (s : Seat) (allowance fuel : Nat) :
    Reaches w (goOn i turn w s allowance fuel).1 := by
  induction fuel generalizing w s allowance with
  | zero => exact .refl
  | succ fuel ih =>
    rw [goOn]
    split
    · exact .refl
    · dsimp only
      split
      · exact .refl
      · split
        · exact .refl
        · split
          · exact .refl
          · rename_i next hnext
            exact (Reaches.single (a := .work i) hnext).trans (ih _ _ _)

theorem reaches_takeTurn (i turn : Nat) (w : World) (s : Seat) (fuel : Nat) :
    Reaches w (w.takeTurn i turn s fuel).1 := by
  rw [takeTurn]
  split
  · exact reaches_goOn _ _ _ _ _ _
  · exact reaches_goOn _ _ _ _ _ _

end World

namespace Schedule

variable {α : Type} {s s' : Schedule}

/-! ### Turns and rounds -/

@[simp] theorem call_world (s : Schedule) (i : Nat) : (s.call i).world = s.world := by
  rw [call]
  split <;> rfl

@[simp] theorem callListener_world (s : Schedule) (i : Nat) :
    (s.callListener i).world = s.world := by
  rw [callListener]
  split
  · split
    · rw [call_world]
    · rfl
  · rfl

@[simp] theorem foldl_call_world (is : List Nat) (s : Schedule) :
    (is.foldl call s).world = s.world := by
  induction is generalizing s with
  | nil => rfl
  | cons i is ih => rw [List.foldl_cons, ih, call_world]

theorem reaches_turn (s : Schedule) (i : Nat) : Reaches s.world (s.turn i).world := by
  rw [turn]
  split
  · exact .refl
  · rename_i seat hseat
    have hturn := World.reaches_takeTurn i (s.turns + 1) s.world seat patience
    dsimp only
    split <;> exact hturn

theorem reaches_takeTurns (s : Schedule) (turns : Nat) :
    Reaches s.world (s.takeTurns turns).world := by
  induction turns generalizing s with
  | zero => exact .refl
  | succ turns ih =>
    rw [takeTurns]
    split
    · exact .refl
    · rename_i i called _
      exact (reaches_turn { s with called } i).trans (ih _)

theorem reaches_round (s : Schedule) : Reaches s.world s.round.world := by
  rw [round]
  simp only [foldl_call_world]
  exact reaches_takeTurns s turnsInRound

/-! ### Waiting -/

theorem lt_of_nextAlarm? {alarm : Option Nat} {t : Nat} (h : s.nextAlarm? alarm = some t) :
    s.world.now < t := by
  have hmem := List.min?_mem h
  simpa using (List.mem_filter.mp hmem).2

theorem reaches_tick {t : Nat} (h : s.world.now < t) : Reaches s.world (s.tick t).world := by
  rw [tick, foldl_call_world]
  refine .single (a := .wait t) ?_
  rw [World.apply, if_pos h]

/-- A caller that goes on does so in a world that came about while it waited. -/
theorem await_spec {poll : World → Option (World × α)} {alarm : Option Nat} {fuel : Nat} {a : α}
    (h : await poll alarm s fuel = some (a, s')) :
    ∃ w, Reaches s.world w ∧ poll w = some (s'.world, a) := by
  induction fuel generalizing s with
  | zero => cases h
  | succ fuel ih =>
    rw [await] at h
    split at h
    · rename_i w a' hpoll
      cases h
      exact ⟨s.world, .refl, hpoll⟩
    · split at h
      · split at h
        · rename_i t halarm
          obtain ⟨w, hw, hpoll⟩ := ih h
          exact ⟨w, (reaches_tick (lt_of_nextAlarm? halarm)).trans hw, hpoll⟩
        · cases h
      · obtain ⟨w, hw, hpoll⟩ := ih h
        exact ⟨w, (reaches_round s).trans hw, hpoll⟩

/-! ### Offers -/

/-- A look at an offer is at most a step of the producer, and finds the answer. -/
theorem pollOffer_spec {ticket : Nat} {w v : World} {r : Except Fault Unit}
    (h : pollOffer ticket w = some (v, r)) : Reaches w v ∧ answer? v ticket = some r := by
  rw [pollOffer] at h
  split at h
  · rename_i r' hanswer
    cases h
    exact ⟨.refl, hanswer⟩
  · split at h
    · rename_i u hsettle
      obtain ⟨r', hanswer, hr⟩ := Option.map_eq_some_iff.mp h
      cases hr
      exact ⟨.single (a := .settle ticket) hsettle, hanswer⟩
    · cases h

private theorem offerNow_spec (s : Schedule) (e : Entry) : ∃ w, Reaches s.world w ∧
    Reaches (w.offer e) (s.offerNow e).2.world ∧
    ((s.offerNow e).1 = .ok () →
      answer? (s.offerNow e).2.world w.offers.length = some (.ok ())) := by
  -- A caller whose allowance is spent steps back before it offers anything.
  have hround : Reaches s.world (if s.allowance = 0 then s.round else s).world := by
    split
    · exact reaches_round s
    · exact .refl
  rw [offerNow]
  generalize (if s.allowance = 0 then s.round else s) = s₁ at hround ⊢
  refine ⟨s₁.world, hround, ?_⟩
  split
  · rename_i a s₂ hawait
    obtain ⟨w, hw, hpoll⟩ := await_spec hawait
    obtain ⟨hstep, hanswer⟩ := pollOffer_spec hpoll
    exact ⟨by simpa using hw.trans hstep, fun _ => by simpa using hanswer⟩
  · rename_i f s₂ hawait
    obtain ⟨w, hw, hpoll⟩ := await_spec hawait
    exact ⟨hw.trans (pollOffer_spec hpoll).1, nofun⟩
  · exact ⟨.refl, nofun⟩

/-- What a caller does that offers an entry: the entry is offered after some steps, and some
steps later the caller goes on. It learns of its success only when the entry is accepted. -/
theorem offer_spec (s : Schedule) (e : Entry) : ∃ w, Reaches s.world w ∧
    Reaches (w.offer e) (s.offer e).2.world ∧
    ((s.offer e).1 = .ok () → answer? (s.offer e).2.world w.offers.length = some (.ok ())) := by
  rw [offer]
  split
  · exact s.offerNow_spec e
  · exact ⟨s.world, .refl, .refl, nofun⟩

end Schedule

end LogIntake.Pipeline
