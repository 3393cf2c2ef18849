import LogIntake.Pipeline.Schedule
import LogIntake.Service.Startup

/-!
# Life of an instance

An instance that has started **serves** until its listener stops, with or without a failure; then
it **drains** the pipeline, and when all workers have stopped, or were ended because the time for
it is over, it closes the store and has **stopped**.

`Instance.Reaches` gives every state that an instance can come to, whatever its producers and
workers do and in whatever order. When the listener stops is left open, and with it when a signal
comes. An instance keeps a list of everything that was asked of other programs, from the first
health check on.
-/

namespace LogIntake.Service

open Pipeline (World Action)

/-- What an instance is doing. -/
inductive Activity where
  | serving
  | draining
  | stopped
  deriving DecidableEq, Repr

/-- An instance that has started. -/
structure Instance where
  activity : Activity
  world : World
  handle : Store.Handle
  /-- What was asked of others, last one first. -/
  requests : List Outgoing
  /-- Why the listener stopped, if it failed. -/
  failure : Option Failure

namespace Instance

/-- The instance that has just started; `asked` is what was asked of others on the way. -/
def start (r : Running) (asked : List Outgoing) : Instance :=
  ⟨.serving, r.world, r.handle, asked.reverse, none⟩

/-- What a list has gained at its front. -/
def gained {α : Type} (before after : List α) : List α :=
  after.take (after.length - before.length)

/-- What the pipeline asked of others in a step, last one first. -/
def asked (handle : Store.Handle) (before after : World) : List Outgoing :=
  (gained before.asked after.asked).map (fun a => .embed a.item.entry.message) ++
    (gained before.writes after.writes).flatMap fun w =>
      ((handle.insert w.batch).request?.map .store).toList

/-- Something happens in the pipeline. -/
def act? (i : Instance) (a : Action) : Option Instance := do
  let world ← i.world.apply a
  pure { i with world, requests := asked i.handle i.world world ++ i.requests }

/-- Asks for the store's health to see whether the service is ready. -/
def check (i : Instance) : Instance :=
  { i with
    world := { i.world with checks := i.world.checks + 1 }
    requests := .store .health :: i.requests }

/-- The listener stops, and the pipeline is told to. -/
def drain (i : Instance) (failure : Option String) : Instance :=
  { i with
    activity := .draining
    world := i.world.stop
    failure := failure.map .server }

/-- Whether the time in which the workers had to stop is over, and so is the grace after it. -/
def isOverdue (w : World) : Bool :=
  match w.deadline with
  | some d => d + Pipeline.Schedule.grace ≤ w.now
  | none => false

/-- Ends the workers that have not stopped in time, and closes the store once all of them are
gone. -/
def finish? (i : Instance) : Option Instance :=
  if i.world.isDone then some { i with activity := .stopped, handle := i.handle.close }
  else if isOverdue i.world then
    some { i with
      activity := .stopped
      world := Pipeline.Schedule.abort i.world
      handle := i.handle.close }
  else none

/-- The states that an instance can come to. -/
inductive Reaches (i : Instance) : Instance → Prop where
  | refl : Reaches i i
  | act {j k : Instance} (a : Action) : Reaches i j → j.activity ≠ .stopped → a ≠ .stop →
    j.act? a = some k → Reaches i k
  | check {j : Instance} : Reaches i j → j.activity ≠ .stopped → Reaches i j.check
  | drain {j : Instance} (failure : Option String) : Reaches i j → j.activity = .serving →
    Reaches i (j.drain failure)
  | finish {j k : Instance} : Reaches i j → j.activity = .draining → j.finish? = some k →
    Reaches i k

end Instance

end LogIntake.Service
