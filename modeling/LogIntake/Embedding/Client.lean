import LogIntake.Call
import LogIntake.Similarity
import LogIntake.Text.Blank

/-!
# Embedding client

The **client** asks a provider for the embedding of a text. It refuses a blank text without
asking, limits the time of each attempt, repeats attempts that failed with a fault that may
pass, and refuses a vector of the wrong length. What it reports is never a fault that may pass:
when the attempts are used up, that is a fault of its own.
-/

namespace LogIntake

/-- What a client goes by; the time limit of an attempt is in milliseconds. -/
structure Client where
  dimension : Nat
  timeout : Nat
  retry : Backoff
  deriving DecidableEq, Repr

namespace Client

/-- The fault of an attempt that took too long. -/
def lateFault (c : Client) : Fault :=
  .embeddingFailed s!"timed out after {c.timeout}ms"

/-- The fault of a health check that took too long. -/
def lateCheck : Fault :=
  .embeddingFailed "health check timed out"

/-- The fault for a blank text. -/
def blankText : Fault :=
  .embeddingRejected "text is empty"

/-- A vector of the right length, or the fault for one of the wrong length. -/
def checkLength (c : Client) (v : Embedding) : Response Embedding :=
  if v.length = c.dimension then .gives v
  else .fails (.embeddingDimension c.dimension v.length)

/-- What the client reports for the fault of the last of some attempts. -/
def report (attempts : UInt32) (f : Fault) : Fault :=
  if f.isTransient then .embeddingExhausted attempts f.message else f

/-- The state before a text is looked at. -/
def start (c : Client) : Call Embedding :=
  Call.start c.retry

/-- One step of embedding a text; the provider answers an attempt made now with `reply ()`. -/
def step (c : Client) (text : String) (reply : Unit → Reply Embedding) (now : Nat)
    (call : Call Embedding) : Progress Embedding :=
  if call.attempts = 0 ∧ Text.isBlankText text then .ended (.fails blankText)
  else
    match call.step c.retry (some c.timeout) c.lateFault reply now with
    | .ended (.gives v) => .ended (c.checkLength v)
    | .ended (.fails f) => .ended (.fails (report call.attempts f))
    | p => p

/-! ### One text after another -/

/-- Embeds a text alone on a clock; an attempt after `n` others is answered with `reply n`. -/
def embed (c : Client) (text : String) (reply : Nat → Reply Embedding) (now fuel : Nat) :
    Call.Trace Embedding :=
  let step := fun now call => c.step text (fun _ => reply call.attempts.toNat) now call
  Call.trace step (·.stage.alarms) now c.start [] fuel

/-- Checks the health of the provider, which answers with `reply`, once within the time limit of
an attempt. -/
def check (c : Client) (reply : Reply Unit) (now : Nat) : Call.Trace Unit :=
  if reply.delay ≤ c.timeout then ⟨some reply.response, [now], now + reply.delay⟩
  else ⟨some (.fails lateCheck), [now], now + c.timeout⟩

end Client

end LogIntake
