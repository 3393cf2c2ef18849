import LogIntake.Similarity

/-!
# Windows of recent embeddings

A **window** holds the embeddings that a stream has shown lately, oldest first, each with the
time at which it came. It is bounded by age and by number, and neither bound looks at what the
embeddings are, so a window depends only on which embeddings came and when.

Times are counts of one unit of a clock; an embedding that comes from the future has age zero.
-/

namespace LogIntake

/-- An embedding that a stream has shown. -/
structure Sighting where
  vector : Embedding
  time : Nat
  deriving DecidableEq, Repr

/-- The recent embeddings of a stream, oldest first, and when the stream was last seen. -/
structure Window where
  sightings : List Sighting
  lastSeen : Nat
  deriving DecidableEq, Repr

namespace Window

/-- The window of a stream that is first seen at a time. -/
def empty (now : Nat) : Window := ⟨[], now⟩

/-- The number of embeddings in a window. -/
def size (w : Window) : Nat :=
  w.sightings.length

/-- Whether a window holds no embedding. -/
def isEmpty (w : Window) : Bool :=
  w.sightings.isEmpty

/-- A window without the embeddings that are older than `maxAge`. -/
def expire (w : Window) (now maxAge : Nat) : Window :=
  { w with sightings := w.sightings.filter fun s => now - s.time ≤ maxAge }

/-- The number of embeddings in a window that are similar to a vector. -/
def similarTo (w : Window) (threshold : Number.Single) (v : Embedding) : Nat :=
  w.sightings.countP fun s => Embedding.similar threshold s.vector v

/-- A list without as many of its first elements as exceed a length. -/
def keepLast {α : Type} (n : Nat) (xs : List α) : List α :=
  xs.drop (xs.length - n)

/-- A window with one more embedding, of which the last `maxEntries` stay, and at least one. -/
def push (w : Window) (v : Embedding) (now maxEntries : Nat) : Window :=
  ⟨keepLast (max maxEntries 1) (w.sightings ++ [⟨v, now⟩]), now⟩

end Window

end LogIntake
