import LogIntake.Store.Request

/-!
# The store as a server

A server that answers truthfully: it knows its collections, creates one exactly if it does not
have it, and never loses one. A **race** is any number of parties that talk to one server at the
same time; in each step one of them has its next request answered. The server of a race may be
any, and so may be what the parties say.
-/

namespace LogIntake.Store

/-- The collections of a server with their vectors. -/
structure Server where
  collections : List (String × Shape)
  deriving DecidableEq, Repr

namespace Server

/-- The vectors of a collection, if the server has it. -/
def shape? (s : Server) (collection : String) : Option Shape :=
  s.collections.lookup collection

/-- Answers a request. -/
def answer : (q : Request) → Server → q.Answer × Server
  | .has c, s => (.ok (s.shape? c).isSome, s)
  | .describe c, s =>
    match s.shape? c with
    | some shape => (.ok shape, s)
    | none => (.error s!"Collection {c} doesn't exist", s)
  | .create c n, s =>
    match s.shape? c with
    | some _ => (.error s!"Collection {c} already exists", s)
    | none => (.ok (), ⟨(c, .single n) :: s.collections⟩)
  | .write c _, s =>
    match s.shape? c with
    | some _ => (.ok (), s)
    | none => (.error s!"Collection {c} doesn't exist", s)
  | .health, s => (.ok (), s)

end Server

/-- A course in which a program makes sure of a collection a number of times, one time after the
other, with what came of each time. -/
def Handle.ensureTimes (h : Handle) : Nat → Talk (List (Except Fault Unit))
  | 0 => .done []
  | n + 1 => h.ensure.bind fun r => (h.ensureTimes n).bind fun rs => .done (r :: rs)

/-- Parties that talk to one server, whose states are of type `σ`. -/
structure Race (σ R : Type) where
  server : σ
  parties : List (Talk R)

namespace Race

variable {σ R : Type}

/-- Has the next request of a party answered; `none` where the party has nothing to say. -/
def step? (answer : (q : Request) → σ → q.Answer × σ) (r : Race σ R) (i : Nat) :
    Option (Race σ R) := do
  let talk ← r.parties[i]?
  let _ ← talk.request?
  let (talk, server) := talk.advance answer r.server
  pure ⟨server, r.parties.set i talk⟩

/-- The courses that a race can take: the party that goes one step further may be any. -/
inductive Run (answer : (q : Request) → σ → q.Answer × σ) (r : Race σ R) : Race σ R → Type where
  | refl : Run answer r r
  | step {s t : Race σ R} (past : Run answer r s) (i : Nat) (h : s.step? answer i = some t) :
    Run answer r t

/-- Whether every party has ended. -/
def isOver (r : Race σ R) : Bool :=
  r.parties.all fun t => t.result?.isSome

end Race

end LogIntake.Store
