import LogIntake.Dedup.Basic

/-!
# Scripts for deduplicators

A **script** is a list of operations on a deduplicator: embeddings to decide on, and sweeps of
what is too old. Where several streams were seen longest ago any of them may be forgotten; a
**tie break** is a way to choose among them, and each operation of a script has its own one. What
is shown of all scripts so holds however ties are broken, and `TieBreak.first` is how
`Deduplicator.consider` breaks them.
-/

namespace LogIntake

namespace Deduplicator

/-- Whether a stream is one of those that were seen longest ago. -/
def IsIdlest (windows : List (String × Window)) (stream : String) : Prop :=
  ∃ w, (stream, w) ∈ windows ∧ ∀ p ∈ windows, w.lastSeen ≤ p.2.lastSeen

/-- What a search for the least time finds is what it began with, or one of those it passed. -/
private theorem foldl_idlest (rest : List (String × Window)) (best : String × Nat)
    {found : String × Nat}
    (h : rest.foldl (fun (best : String × Nat) p =>
      if p.2.lastSeen < best.2 then (p.1, p.2.lastSeen) else best) best = found) :
    found.2 ≤ best.2 ∧ (∀ p ∈ rest, found.2 ≤ p.2.lastSeen) ∧
      (found = best ∨ ∃ w, (found.1, w) ∈ rest ∧ w.lastSeen = found.2) := by
  induction rest generalizing best with
  | nil =>
    obtain rfl : best = found := h
    exact ⟨Nat.le_refl _, nofun, .inl rfl⟩
  | cons p rest ih =>
    rw [List.foldl_cons] at h
    obtain ⟨hle, hrest, hfound⟩ := ih _ h
    by_cases hp : p.2.lastSeen < best.2
    · rw [if_pos hp] at hle hfound
      refine ⟨Nat.le_trans hle (Nat.le_of_lt hp), ?_, .inr ?_⟩
      · exact List.forall_mem_cons.mpr ⟨hle, hrest⟩
      · rcases hfound with hfound | ⟨w, hw, hseen⟩
        · rw [hfound]
          exact ⟨p.2, List.mem_cons_self, rfl⟩
        · exact ⟨w, List.mem_cons_of_mem _ hw, hseen⟩
    · rw [if_neg hp] at hle hfound
      refine ⟨hle, List.forall_mem_cons.mpr ⟨by omega, hrest⟩, hfound.imp id ?_⟩
      rintro ⟨w, hw, hseen⟩
      exact ⟨w, List.mem_cons_of_mem _ hw, hseen⟩

/-- The stream that is found is one of those seen longest ago. -/
theorem isIdlest_of_idlest? {windows : List (String × Window)} {stream : String}
    (h : idlest? windows = some stream) : IsIdlest windows stream := by
  cases windows with
  | nil => cases h
  | cons p rest =>
    obtain ⟨hle, hrest, hfound⟩ := foldl_idlest rest (p.1, p.2.lastSeen) rfl
    obtain rfl := Option.some.inj h
    rcases hfound with hfound | ⟨w, hw, hseen⟩
    · refine ⟨p.2, ?_, List.forall_mem_cons.mpr ⟨Nat.le_refl _, fun q hq => ?_⟩⟩
      · rw [hfound]
        exact List.mem_cons_self
      · rw [hfound] at hrest
        exact hrest q hq
    · refine ⟨w, List.mem_cons_of_mem _ hw, List.forall_mem_cons.mpr ⟨?_, fun q hq => ?_⟩⟩
      · rw [hseen]
        exact hle
      · rw [hseen]
        exact hrest q hq

/-- A way to choose among the streams that were seen longest ago. -/
structure TieBreak where
  choose : List (String × Window) → Option String
  isIdlest : ∀ {windows : List (String × Window)} {stream : String},
    choose windows = some stream → IsIdlest windows stream
  isSome : ∀ {windows : List (String × Window)}, windows ≠ [] → (choose windows).isSome = true

/-- The choice of the first stream. -/
def TieBreak.first : TieBreak where
  choose := idlest?
  isIdlest := isIdlest_of_idlest?
  isSome {windows} h := by
    cases windows with
    | nil => exact absurd rfl h
    | cons p rest => rfl

/-- What a deduplicator can be asked to do. -/
inductive Op where
  /-- Decide on an embedding of a stream at a time. -/
  | consider (stream : String) (v : Embedding) (now : Nat)
  /-- Drop what is too old at a time. -/
  | expire (now : Nat)
  deriving DecidableEq, Repr

/-- The time of an operation. -/
def Op.now : Op → Nat
  | .consider _ _ now | .expire now => now

/-- Whether an operation decides on an embedding. -/
def Op.isConsider : Op → Bool
  | .consider _ _ _ => true
  | .expire _ => false

/-- Whether operations come in the order of time, and no two decisions at one time. -/
def Chronological (ops : List Op) : Prop :=
  ops.Pairwise fun a b =>
    a.now ≤ b.now ∧ (a.isConsider = true → b.isConsider = true → a.now < b.now)

/-- The decision of an operation, if it makes one, and the deduplicator after it. -/
def apply (d : Deduplicator) (tie : TieBreak) : Op → Option Decision × Deduplicator
  | .consider stream v now =>
    let (decision, d) := d.considerBy tie.choose stream v now
    (some decision, d)
  | .expire now => (none, d.expire now)

/-- The decisions in a script, each with the deduplicator after it. -/
def outcomes (d : Deduplicator) : List (TieBreak × Op) → List (Option Decision × Deduplicator)
  | [] => []
  | (tie, op) :: rest => d.apply tie op :: (d.apply tie op).2.outcomes rest

end Deduplicator

end LogIntake
