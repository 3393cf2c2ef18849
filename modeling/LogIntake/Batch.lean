import LogIntake.Entry.Basic
import LogIntake.Similarity

/-!
# Batches

A **point** is an entry with its embedding and the identifier that it is stored under. Points
are collected in an **accumulator** until they are as many as a batch may have, or until the
first of them has waited long enough; then they are taken out together, as a **batch**.

The identifier is given when the entry is embedded, so a batch that is written again writes the
same points.
-/

namespace LogIntake

/-- An entry with its embedding, under an identifier. -/
structure Point where
  id : Nat
  entry : Entry
  vector : Embedding
  deriving DecidableEq, Repr

/-- Points that are written in one call, in order. -/
abbrev Batch := List Point

/-- Items that wait to be taken out together, first one first. -/
structure Accumulator (α : Type) where
  /-- The number of items from which on the accumulator is full. -/
  maxSize : Nat
  /-- How long the first item waits. -/
  maxAge : Nat
  pending : List α
  /-- When the first item came. -/
  openedAt : Option Nat
  deriving DecidableEq, Repr

namespace Accumulator

variable {α : Type}

/-- An accumulator without items, for at least one of them. -/
def empty (maxSize maxAge : Nat) : Accumulator α :=
  ⟨max maxSize 1, maxAge, [], none⟩

/-- The number of items that wait. -/
def size (a : Accumulator α) : Nat :=
  a.pending.length

/-- Whether no item waits. -/
def isEmpty (a : Accumulator α) : Bool :=
  a.pending.isEmpty

/-- Whether the accumulator holds as many items as a batch may have. -/
def isFull (a : Accumulator α) : Bool :=
  a.maxSize ≤ a.size

/-- Adds an item at a time; the first item fixes when the accumulator was opened. -/
def push (a : Accumulator α) (x : α) (now : Nat) : Accumulator α :=
  { a with
    pending := a.pending ++ [x]
    openedAt := if a.isEmpty then some now else a.openedAt }

/-- When the items that wait must be taken out. -/
def deadline? (a : Accumulator α) : Option Nat :=
  a.openedAt.map (· + a.maxAge)

/-- The accumulator after its items were taken out. -/
def cleared (a : Accumulator α) : Accumulator α :=
  { a with pending := [], openedAt := none }

/-- Takes out the items that wait, if there are any. -/
def take (a : Accumulator α) : Option (List α) × Accumulator α :=
  (if a.isEmpty then none else some a.pending, a.cleared)

end Accumulator

end LogIntake
