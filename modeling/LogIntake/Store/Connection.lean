import LogIntake.Call
import LogIntake.Net.Uri
import LogIntake.Store.Request

/-!
# Connecting to the store

A handle needs a URI. A program that starts then waits for the store: it asks for the store's
health again and again, with longer and longer breaks, until the store is well or the time is
over. The first question is asked in any case, and an answer that is there when the time is over
still counts.
-/

namespace LogIntake.Store

/-- A handle for a store, which no request is made for yet. -/
def Handle.ofSettings (s : Config.Store) : Except Fault Handle :=
  if Net.Uri.isValid s.url then .ok ⟨s, false⟩
  else .error (.storeUnreachable "Failed to build client: invalid URI")

/-- The reply to a question for the store's health that is answered after a delay. -/
def checkReply (delay : Nat) (answer : Request.Answer .health) : Reply Unit :=
  .after delay (match answer with
    | .ok _ => .gives ()
    | .error e => .fails (.storeUnreachable e))

namespace Connection

/-- The breaks between questions: 200 ms at first, twice as long each time, and up to 5 s. The
number of questions is not limited by the settings. -/
def backoff : Backoff := ⟨0xFFFFFFFF, 200, 5000, Backoff.two, true⟩

/-- The fault of a store that was not well in time; the time is named in whole seconds. -/
def lateFault (s : Config.Store) (timeout : Nat) : Fault :=
  .storeUnreachable s!"{s.url} did not become healthy within {timeout / 1000}s"

/-- One step of waiting for a store until a time; the store answers a question asked now with
`reply`. -/
def step (s : Config.Store) (timeout till : Nat) (reply : Reply Unit) (now : Nat)
    (call : Call Unit) : Progress Unit :=
  match call.step backoff none .queueFull (fun _ => reply) now with
  | .blocked => if till ≤ now then .ended (.fails (lateFault s timeout)) else .blocked
  | p => p

/-- Waits for a store, which answers a question after `n` others with `reply n`. -/
def await (s : Config.Store) (timeout : Nat) (reply : Nat → Reply Unit) (now fuel : Nat) :
    Call.Trace Unit :=
  let till := now + timeout
  let step := fun now call => step s timeout till (reply call.attempts.toNat) now call
  Call.trace step (till :: ·.stage.alarms) now (Call.start backoff) [] fuel

end Connection

end LogIntake.Store
