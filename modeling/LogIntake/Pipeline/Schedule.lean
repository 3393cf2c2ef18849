import LogIntake.Pipeline.Turn
import LogIntake.Time.Sleep
import LogIntake.Time.Steady

/-!
# Scheduled runs

A **schedule** runs a pipeline and one caller on a single processor. The caller goes on as long
as it can, and as its allowance reaches. When it has to wait, the workers that have been called
take their turns, in the order in which they were called; the caller is looked at again when all
of them have had a turn, or after a number of turns. That is a **round**. Who stepped back in a
round is called at its end, the last one first.

When nobody has been called the clock moves to the next time at which somebody can go on. Of
several workers whose timers then ring, the one whose timer was set earlier is called first.

Every step of a schedule is a step of the world, so whatever holds of all runs holds of
schedules.
-/

namespace LogIntake.Pipeline

/-- A world whose workers take turns with a caller. -/
structure Schedule where
  world : World
  /-- The seats of the workers. -/
  seats : List Seat
  /-- The workers that have been called and not had their turn yet, in order. -/
  called : List Nat
  /-- The workers that have stepped back in this round, last one first. -/
  steppedBack : List Nat
  /-- The number of turns that workers have had. -/
  turns : Nat
  /-- What the caller may still do before it has to step back. -/
  allowance : Nat

namespace Schedule

/-- A bound on the number of steps in a row, far above what settings in use come to. -/
def patience : Nat := 1000000000

/-- The number of turns after which the caller is looked at again. -/
def turnsInRound : Nat := 61

/-- The schedule of a pipeline that has just been started: all workers wait for entries. -/
def start (w : World) : Schedule where
  world := w
  seats := w.workers.map fun _ => .first
  called := []
  steppedBack := []
  turns := 0
  allowance := fullAllowance

/-! ### Turns of the workers -/

/-- Calls a worker, unless it has been called already. -/
def call (s : Schedule) (i : Nat) : Schedule :=
  if s.called.contains i then s else { s with called := s.called ++ [i] }

/-- Calls a worker if it listens. -/
def callListener (s : Schedule) (i : Nat) : Schedule :=
  match s.seats[i]? with
  | some seat =>
    if seat.listening then
      { s with seats := s.seats.set i { seat with listening := false } }.call i
    else s
  | none => s

/-- The numbers of the workers that are not gone. -/
def present (s : Schedule) : List Nat :=
  (List.range s.world.workers.length).filter fun i =>
    (s.world.workers[i]?).any fun k => !k.isGone

/-- Lets a worker take a turn. -/
def turn (s : Schedule) (i : Nat) : Schedule :=
  match s.seats[i]? with
  | none => s
  | some seat =>
    let turns := s.turns + 1
    let (world, seat, ended) := s.world.takeTurn i turns seat patience
    let s := { s with world, turns, seats := s.seats.set i seat }
    match ended with
    | .waits => s
    | .stepsBack => { s with steppedBack := i :: s.steppedBack }

/-- Lets up to a number of workers that have been called take their turns. -/
def takeTurns (s : Schedule) : (turns : Nat) → Schedule
  | 0 => s
  | turns + 1 =>
    match s.called with
    | [] => s
    | i :: called => takeTurns ({ s with called }.turn i) turns

/-- A round, at the end of which the caller may go on. -/
def round (s : Schedule) : Schedule :=
  let s := s.takeTurns turnsInRound
  { s.steppedBack.foldl call { s with steppedBack := [] } with allowance := fullAllowance }

/-! ### The clock -/

/-- The timers of a worker. -/
def timersOf (s : Schedule) (i : Nat) : List (Nat × Nat) :=
  match s.world.workers[i]?, s.seats[i]? with
  | some k, some seat => seat.timers s.world k
  | _, _ => []

/-- The next time at which somebody can go on; the caller can at `alarm`, if it gives one. -/
def nextAlarm? (s : Schedule) (alarm : Option Nat) : Option Nat :=
  let timers := s.present.flatMap fun i => (s.timersOf i).map (·.1)
  ((timers ++ alarm.toList).filter (s.world.now < ·)).min?

/-- The workers with timers that ring at a time, in the order in which those were set. -/
def ringing (s : Schedule) (t : Nat) : List Nat :=
  let due := s.present.filterMap fun i =>
    (((s.timersOf i).filter (·.1 = t)).map (·.2)).min?.map (·, i)
  (due.mergeSort fun a b => a.1 ≤ b.1).map (·.2)

/-- Moves the clock and calls the workers whose timers ring. -/
def tick (s : Schedule) (t : Nat) : Schedule :=
  (s.ringing t).foldl call { s with world := { s.world with now := t } }

/-- Lets the caller wait until `poll` says that it can go on. -/
def await {α : Type} (poll : World → Option (World × α)) (alarm : Option Nat) (s : Schedule) :
    (fuel : Nat) → Option (α × Schedule)
  | 0 => none
  | fuel + 1 =>
    match poll s.world with
    | some (w, a) => some (a, { s with world := w })
    | none =>
      if s.called.isEmpty then
        match s.nextAlarm? alarm with
        | some t => await poll alarm { s.tick t with allowance := fullAllowance } fuel
        | none => none
      else await poll alarm s.round fuel

/-- Lets the caller wait until no worker can go on at this time. -/
def settle (s : Schedule) : (fuel : Nat) → Schedule
  | 0 => s
  | fuel + 1 => if s.called.isEmpty then s else settle s.round fuel

/-- Lets all workers go on until they have to wait, without any time passing. -/
def rest (s : Schedule) : Schedule :=
  { s.settle patience with allowance := fullAllowance }

/-! ### What a caller does -/

/-- The answer to a settled offer. -/
def answer? (w : World) (ticket : Nat) : Option (Except Fault Unit) :=
  match w.offers[ticket]? with
  | some o =>
    match o.state with
    | .accepted _ => some (.ok ())
    | .refused f => some (.error f)
    | .waiting _ _ => none
  | none => none

/-- One look at an offer: its answer, if it is settled or can be settled now. -/
def pollOffer (ticket : Nat) (w : World) : Option (World × Except Fault Unit) :=
  match answer? w ticket with
  | some r => some (w, r)
  | none =>
    match w.settle ticket with
    | some w => (answer? w ticket).map (w, ·)
    | none => none

/-- Offers an entry and waits for the answer, which takes some effort. A caller whose allowance
is spent steps back first. -/
def offerNow (s : Schedule) (e : Entry) : Except Fault Unit × Schedule :=
  let s := if s.allowance = 0 then s.round else s
  let ticket := s.world.offers.length
  let limit := s.world.now + s.world.settings.enqueueTimeout
  let s := { s with world := s.world.offer e }
  match await (pollOffer ticket) (some limit) s patience with
  | some (.ok a, s) =>
    let s := s.callListener (workerOf e.source s.world.workers.length)
    (.ok a, { s with allowance := s.allowance - 1 })
  | some (.error f, s) => (.error f, { s with allowance := s.allowance - 1 })
  | none => (.error .closed, s)

/-- Offers an entry and waits for the answer. A pipeline that takes no more entries refuses it
without any effort. -/
def offer (s : Schedule) (e : Entry) : Except Fault Unit × Schedule :=
  if s.world.accepting then s.offerNow e
  else (.error .closed, { s with world := s.world.offer e })

/-- Waits until the clock has moved on by a duration, but no longer than the longest sleep. -/
def sleep (s : Schedule) (duration : Nat) : Schedule :=
  let till := s.world.now + Time.sleepFor duration
  let poll (w : World) := if till ≤ w.now then some (w, ()) else none
  match await poll (some till) s patience with
  | some (_, s) => s
  | none => s

/-- Asks the store for its health and waits for the answer. -/
def check (s : Schedule) : Response Unit × Schedule :=
  let w := s.world
  let reply := w.backend.check w.checks
  (reply.response, { s with world := { w with checks := w.checks + 1 } }.sleep reply.delay)

/-- Closes the pipeline to new entries, which those who listen for one learn at once. -/
def close (s : Schedule) : Schedule :=
  if s.world.accepting then s.present.foldl callListener { s with world := s.world.close }
  else s

/-! ### Stopping -/

/-- What is known at the end of a pipeline. -/
structure Report where
  totals : Totals
  /-- The number of workers that were still running after the deadline and were ended. -/
  aborted : Nat
  elapsed : Nat
  deriving DecidableEq, Repr

/-- How long after the deadline workers that are still running are ended. -/
def grace : Nat := 1000

/-- Ends the workers that are still running. -/
def abort (w : World) : World :=
  { w with workers := w.workers.map fun k => if k.isGone then k else k.leave .broken }

/-- The number of workers that have to be ended: none as long as the deadline and the grace
after it have not passed, and none of those that have stopped. -/
def pollStop (limit : Nat) (w : World) : Option (World × Nat) :=
  if w.isDone then some (w, 0)
  else if limit ≤ w.now then
    some (abort w, w.workers.countP fun k => !k.isGone)
  else none

/-- Stops the pipeline and waits until its workers have stopped. -/
def stop (s : Schedule) : Report × Schedule :=
  let started := s.world.now
  let limit := started + s.world.settings.shutdownTimeout + grace
  let s := s.close
  let s := s.present.foldl call { s with world := s.world.stop }
  match await (pollStop limit) (some limit) s patience with
  | some (aborted, s) =>
    (⟨s.world.metrics.totals, aborted, s.world.now - started⟩, s)
  | none => (⟨s.world.metrics.totals, 0, s.world.now - started⟩, s)

/-- Stops the pipeline where the steady clock, which showed `origin` when this one showed zero, has
a reading for the end of the grace; otherwise the caller breaks, and the workers are lost. -/
def stop? (origin : Nat) (s : Schedule) : Option (Report × Schedule) := do
  let started ← Time.later? origin s.world.now
  let deadline ← Time.later? started s.world.settings.shutdownTimeout
  let _ ← Time.later? deadline grace
  pure s.stop

end Schedule

end LogIntake.Pipeline
