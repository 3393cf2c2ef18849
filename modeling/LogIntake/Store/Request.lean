import LogIntake.Config.Store
import LogIntake.Dialogue
import LogIntake.Fault
import LogIntake.Store.Payload

/-!
# Requests to the store

The store is a server with **collections** of points, whose vectors have one length and are
compared by their cosine. A **handle** is what a program holds to use one collection: through it
the program makes sure that the collection is there, writes points, asks for the store's health,
and takes leave.

Several programs may make sure of one collection at once. `Handle.ensure` therefore takes a
failure to create it as a reason to look again: another program may have been faster.
-/

namespace LogIntake.Store

/-- What a store says of the length of the vectors in a collection. -/
inductive Shape where
  /-- Nothing. -/
  | unknown
  /-- One vector for each point. -/
  | single (length : Nat)
  /-- Several vectors for each point, with names. -/
  | named (lengths : List (String × Nat))
  deriving DecidableEq, Repr

/-- The length of the vectors that count: of the first of several. -/
def Shape.length? : Shape → Option Nat
  | .unknown => none
  | .single n => some n
  | .named lengths => lengths.head?.map (·.2)

/-- A point as the store takes it. -/
structure Stored where
  id : Nat
  vector : Embedding
  payload : List (String × Payload)
  deriving Repr

/-- A point as the store takes it. -/
def Stored.ofPoint (p : Point) : Stored :=
  ⟨p.id, p.vector, Payload.ofEntry p.entry⟩

/-- What a store is asked. -/
inductive Request where
  /-- Whether it has a collection. -/
  | has (collection : String)
  /-- What vectors a collection has. -/
  | describe (collection : String)
  /-- To create a collection for vectors of a length. -/
  | create (collection : String) (length : Nat)
  /-- To write points and to answer when they are stored; one with the identifier of another
  takes its place. -/
  | write (collection : String) (points : List Stored)
  /-- Whether it is well. -/
  | health
  deriving Repr

/-- What a store answers when a request succeeds. -/
def Request.Result : Request → Type
  | .has _ => Bool
  | .describe _ => Shape
  | .create _ _ | .write _ _ | .health => Unit

/-- The answer to a request, which is a text where the request fails. -/
abbrev Request.Answer (q : Request) : Type := Except String q.Result

/-- A course of requests to a store. -/
abbrev Talk (R : Type) : Type := Dialogue Request Request.Answer R

/-- A collection in use. -/
structure Handle where
  settings : Config.Store
  isClosed : Bool := false

namespace Handle

/-- Ends with the fault of a store that cannot be reached. -/
def unreachable (detail : String) : Talk (Except Fault Unit) :=
  .done (.error (.storeUnreachable detail))

/-- Makes sure that the collection, which is there, has vectors of the right length. An unknown
length counts as zero. -/
def verify (h : Handle) : Talk (Except Fault Unit) :=
  .ask (.describe h.settings.collection) fun
    | .error e => unreachable e
    | .ok shape =>
      let actual := shape.length?.getD 0
      .done (if actual = h.settings.dimension then .ok ()
        else .error (.collectionDimension h.settings.collection h.settings.dimension actual))

/-- Makes sure that the collection is there and has vectors of the right length. -/
def ensure (h : Handle) : Talk (Except Fault Unit) :=
  let name := h.settings.collection
  .ask (.has name) fun
    | .error e => unreachable e
    | .ok true => h.verify
    | .ok false =>
      .ask (.create name h.settings.dimension) fun
        | .ok _ => .done (.ok ())
        | .error failure =>
          .ask (.has name) fun
            | .error e => unreachable e
            | .ok true => h.verify
            | .ok false => unreachable failure

/-- Writes a batch, in one request unless it is empty. -/
def insert (h : Handle) (batch : Batch) : Talk (Except Fault Unit) :=
  if h.isClosed then .done (.error (.writeFailed "client is closed"))
  else if batch.isEmpty then .done (.ok ())
  else
    .ask (.write h.settings.collection (batch.map Stored.ofPoint)) fun
      | .error e => .done (.error (.writeFailed e))
      | .ok _ => .done (.ok ())

/-- Asks for the store's health. -/
def check : Talk (Except Fault Unit) :=
  .ask .health fun
    | .error e => unreachable e
    | .ok _ => .done (.ok ())

/-- Takes leave: nothing is written through the handle any more. -/
def close (h : Handle) : Handle :=
  { h with isClosed := true }

end Handle

end LogIntake.Store
