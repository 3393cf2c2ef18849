import LogIntake.Pipeline.Step

/-!
# Turns of a worker

Where several share one processor they take **turns**. A worker's turn lasts until the worker
has to wait, or until it has spent its **allowance** and has to step back although it could go
on. Taking an entry, waking from a wait and the like take one unit of **effort** each; asking a
backend takes none, nor does an answer that is there at once.

A worker that has to wait sets **timers**: one for each time at which it can go on by itself. A
timer is as old as the turn in which it was set, and of timers that ring at one time the older
one rings first. Where a worker comes to a new wait it sets its timers anew, unless its allowance
is spent: then it steps back, and sets them in its next turn. A worker's **seat** holds what is
needed to tell in which turns it set the timers that it has.

Every step in a turn is a step of the world.
-/

namespace LogIntake

/-- Whether the next step at a stage takes no effort: making an attempt takes none, and neither
does an answer that is there in the turn in which the attempt was made; `isNew` says whether the
stage was reached in this turn. -/
def Stage.isFree {α : Type} (now : Nat) (isNew : Bool) : Stage α → Bool
  | .ready => true
  | .calling due _ _ _ => isNew && due ≤ now
  | .resting _ => false

namespace Pipeline

/-- What is kept of a worker from one turn to the next. -/
structure Seat where
  /-- Whether the next entry that enters the queue calls the worker. -/
  listening : Bool
  /-- Whether the timers of the present wait are still to be set. -/
  unset : Bool
  /-- The turn in which the present wait began. -/
  waiting : Nat
  /-- The turn in which the worker set a timer for the deadline although its wait had begun
  earlier. -/
  warned : Option Nat
  /-- The turn in which the timers of the embedding at hand were set. -/
  embedding : Nat
  /-- The turn in which the timers of the write at hand were set. -/
  writing : Nat
  deriving DecidableEq, Repr

/-- What a worker can do in a turn. -/
def fullAllowance : Nat := 128

namespace Phase

/-- Whether a worker that goes on from one phase to another one comes to a new wait. -/
def isLeftFor : Phase → Phase → Bool
  | .idle, .idle => false
  | .embedding _ _, .embedding _ _ => false
  | .writing _ _ _, .writing _ _ _ => false
  | _, _ => true

end Phase

namespace Seat

/-- The seat of a worker that waits for its first entry. -/
def first : Seat where
  listening := true
  unset := false
  waiting := 0
  warned := none
  embedding := 0
  writing := 0

/-- The seat of a worker that sets the timers of its present wait, if it has not done so yet. -/
def begin (s : Seat) (turn : Nat) : Seat :=
  if s.unset then { s with unset := false, waiting := turn } else s

/-- The seat after a step from one phase to another one. -/
def stepped (s : Seat) (turn : Nat) (before after : Phase) : Seat :=
  let s := if before.isLeftFor after then { s with unset := true } else s
  match before, after with
  | .embedding _ _, .embedding _ _ => { s with embedding := turn }
  | .writing _ _ _, .writing _ _ _ => { s with writing := turn }
  | _, _ => s

/-- The turn in which the timer for the deadline was set. -/
def deadlineTurn (s : Seat) : Nat :=
  max s.waiting (s.warned.getD 0)

/-- The timers of a worker that waits, as times with the turns in which they were set. While a
batch is being written those of an embedding that was interrupted remain. -/
def timers (w : World) (k : Worker) (s : Seat) : List (Nat × Nat) :=
  let deadline := w.deadline.toList.map (·, s.deadlineTurn)
  let age := k.pending.deadline?.toList.map (·, s.waiting)
  match k.phase with
  | .idle => deadline ++ age
  | .embedding _ call => deadline ++ age ++ call.stage.alarms.map (·, s.embedding)
  | .writing _ call next =>
    let kept := match next with
      | .embed _ call => call.stage.alarms.map (·, s.embedding)
      | .resume | .finish => []
    deadline ++ call.stage.alarms.map (·, s.writing) ++ kept
  | .stopped | .broken => []

end Seat

namespace Worker

/-- The effort of the next step of a worker, or of finding out that it has to wait. -/
def effort (w : World) (k : Worker) (s : Seat) (turn : Nat) : Nat :=
  let isFree := match k.phase with
    | .embedding _ call =>
      !w.isDue k.pending.deadline? && call.stage.isFree w.now (s.embedding == turn)
    | .writing _ call _ => call.stage.isFree w.now (s.writing == turn)
    | _ => false
  if isFree && !w.isOver then 0 else 1

end Worker

/-- How a turn ended. -/
inductive TurnEnd where
  /-- The worker has to wait, or is gone. -/
  | waits
  /-- The worker had to step back. -/
  | stepsBack
  deriving DecidableEq, Repr

namespace World

/-- Goes on with the turn of a worker, with some allowance left. When it is spent the worker does
what takes no effort and then steps back. Takes at most `fuel` steps. -/
def goOn (i turn : Nat) (w : World) (s : Seat) (allowance : Nat) :
    (fuel : Nat) → World × Seat × TurnEnd
  | 0 => (w, s, .waits)
  | fuel + 1 =>
    match w.workers[i]? with
    | none => (w, s, .waits)
    | some k =>
      let effort := k.effort w s turn
      if k.isGone then (w, s, .waits)
      else if allowance = 0 && (s.unset || 0 < effort) then (w, s, .stepsBack)
      else
        let s := s.begin turn
        match w.work i with
        | none =>
          let listening := match k.phase with
            | .idle => true
            | _ => s.listening
          (w, { s with listening }, .waits)
        | some next =>
          let s := match next.workers[i]? with
            | some k' => s.stepped turn k.phase k'.phase
            | none => s
          goOn i turn next s (allowance - effort) fuel

/-- The turn of a worker. One that learns only now that there is a deadline sets a timer for it
first, which takes some effort. -/
def takeTurn (i turn : Nat) (w : World) (s : Seat) (fuel : Nat) : World × Seat × TurnEnd :=
  if w.deadline.isSome && s.warned.isNone then
    goOn i turn w { s with warned := some turn } (fullAllowance - 1) fuel
  else goOn i turn w s fullAllowance fuel

end World

end Pipeline

end LogIntake
