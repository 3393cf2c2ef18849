/-!
# Dialogues

A **dialogue** is a course of requests to a server: each is answered before the next one is
made, what comes next depends on the answer, and at the end there is a result. It says nothing
about time or about the server, so it can be held with a server that goes by a script, and
dialogues of several parties with one server can be interleaved request by request.
-/

namespace LogIntake

/-- A course of requests of type `Q` with a result of type `R`; a request `q` is answered with
an `A q`. -/
inductive Dialogue (Q : Type) (A : Q → Type) (R : Type) where
  | done (r : R)
  | ask (q : Q) (next : A q → Dialogue Q A R)

namespace Dialogue

variable {Q : Type} {A : Q → Type} {R S σ : Type}

/-- What came of a dialogue: its result, the requests in the order in which they were made, and
the server's state after them. -/
structure Record (Q R σ : Type) where
  result : R
  requests : List Q
  state : σ

/-- Holds a dialogue with a server. -/
def hold (answer : (q : Q) → σ → A q × σ) : Dialogue Q A R → σ → Record Q R σ
  | .done r, s => ⟨r, [], s⟩
  | .ask q next, s =>
    let (a, s) := answer q s
    let record := hold answer (next a) s
    { record with requests := q :: record.requests }

/-- The request that is made next, unless the dialogue has ended. -/
def request? : Dialogue Q A R → Option Q
  | .done _ => none
  | .ask q _ => some q

/-- The result, if the dialogue has ended. -/
def result? : Dialogue Q A R → Option R
  | .done r => some r
  | .ask _ _ => none

/-- Has the next request answered by a server. -/
def advance (answer : (q : Q) → σ → A q × σ) (s : σ) : Dialogue Q A R → Dialogue Q A R × σ
  | .done r => (.done r, s)
  | .ask q next =>
    let (a, s) := answer q s
    (next a, s)

/-- A dialogue followed by another one, which may depend on its result. -/
def bind : Dialogue Q A R → (R → Dialogue Q A S) → Dialogue Q A S
  | .done r, f => f r
  | .ask q next, f => .ask q fun a => (next a).bind f

end Dialogue

end LogIntake
