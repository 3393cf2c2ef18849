import LogIntake.Dedup.Window

/-!
# Deduplication

A **deduplicator** keeps a window for each stream and decides for each embedding whether its
stream has shown enough similar ones already. The embedding joins the window whatever the
decision is. When a stream comes that has no window and as many streams as allowed have one, the
stream that was seen longest ago is forgotten. Which one that is when there are several is a
parameter of `considerBy`; `consider` takes the first one.
-/

namespace LogIntake

/-- What deduplication goes by. -/
structure DedupSettings where
  /-- The cosine from which on two embeddings are similar. -/
  threshold : Number.Single
  /-- The number of similar embeddings from which on another one is suppressed. -/
  minExamples : UInt32
  /-- The number of embeddings kept for a stream. -/
  maxEntries : Nat
  /-- The age up to which embeddings are kept. -/
  maxAge : Nat
  /-- The number of streams that have a window. -/
  maxStreams : Nat
  deriving DecidableEq, Repr

/-- Whether an entry goes on to the store. -/
inductive Decision where
  | accept
  | suppress
  deriving DecidableEq, Repr

/-- The windows of the streams seen lately, one for each stream. -/
structure Deduplicator where
  settings : DedupSettings
  windows : List (String × Window)
  deriving DecidableEq, Repr

namespace Deduplicator

/-- A deduplicator that has seen nothing. -/
def empty (settings : DedupSettings) : Deduplicator := ⟨settings, []⟩

/-- The window of a stream. -/
def window? (d : Deduplicator) (stream : String) : Option Window :=
  d.windows.lookup stream

/-- The number of streams that have a window. -/
def streamCount (d : Deduplicator) : Nat :=
  d.windows.length

/-- The stream that was seen longest ago; the first of several. -/
def idlest? : List (String × Window) → Option String
  | [] => none
  | (s, w) :: rest =>
    some (rest.foldl (fun (best : String × Nat) p =>
      if p.2.lastSeen < best.2 then (p.1, p.2.lastSeen) else best) (s, w.lastSeen)).1

/-- Forgets a stream. -/
def forget (windows : List (String × Window)) (stream : String) : List (String × Window) :=
  windows.eraseP fun p => p.1 == stream

/-- Forgets the streams that `idlest` gives until fewer than `cap` are left; looks at most `fuel`
times. -/
def forgetIdle (idlest : List (String × Window) → Option String) (cap : Nat)
    (windows : List (String × Window)) : (fuel : Nat) → List (String × Window)
  | 0 => windows
  | fuel + 1 =>
    if cap ≤ windows.length then
      match idlest windows with
      | some s => forgetIdle idlest cap (forget windows s) fuel
      | none => windows
    else windows

/-- The windows with room for one more stream. -/
def makeRoom (idlest : List (String × Window) → Option String) (d : Deduplicator) :
    List (String × Window) :=
  forgetIdle idlest (max d.settings.maxStreams 1) d.windows d.windows.length

/-- The windows with the window of a stream replaced, or added where the stream has none. -/
def put (windows : List (String × Window)) (stream : String) (w : Window) :
    List (String × Window) :=
  match windows with
  | [] => [(stream, w)]
  | (s, v) :: rest => if s = stream then (s, w) :: rest else (s, v) :: put rest stream w

/-- Decides on an embedding of a stream at a time, and adds it to the stream's window; `idlest`
gives the streams to forget. -/
def considerBy (idlest : List (String × Window) → Option String) (d : Deduplicator)
    (stream : String) (v : Embedding) (now : Nat) : Decision × Deduplicator :=
  let windows := if (d.window? stream).isSome then d.windows else d.makeRoom idlest
  let w := ((windows.lookup stream).getD (.empty now)).expire now d.settings.maxAge
  let found := w.similarTo d.settings.threshold v
  let w := w.push v now d.settings.maxEntries
  let decision := if d.settings.minExamples.toNat ≤ found then .suppress else .accept
  (decision, { d with windows := put windows stream w })

/-- Decides on an embedding of a stream at a time, and adds it to the stream's window. -/
def consider (d : Deduplicator) (stream : String) (v : Embedding) (now : Nat) :
    Decision × Deduplicator :=
  d.considerBy idlest? stream v now

/-- Drops the embeddings that are too old from every window, and the windows left empty. -/
def expire (d : Deduplicator) (now : Nat) : Deduplicator :=
  { d with
    windows := (d.windows.map fun p => (p.1, p.2.expire now d.settings.maxAge)).filter
      fun p => !p.2.isEmpty }

end Deduplicator

end LogIntake
