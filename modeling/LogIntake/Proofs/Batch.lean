import LogIntake.Batch
import Mathlib.Data.List.DropRight

/-!
# Accumulators in use

Items are pushed into an accumulator and taken out of it while time passes. What waits in it is
told by the uses alone: the items that were pushed since the last taking out (`recent`), and the
first of them says until when. Each use keeps the `Account` of this.

So whatever is done with an accumulator (`conduct_after`), no item is lost or moved, no batch is
empty, and the deadline is that of the first item that waits. Who takes out the items whenever the
accumulator says that it is full never sees a batch of more items than it may have.
-/

namespace LogIntake.Accumulator

variable {α : Type}

/-- What happens to an accumulator. -/
inductive Use (α : Type) where
  | push (x : α)
  | take
  /-- Time passes. -/
  | pass (duration : Nat)

namespace Use

/-- The item that is pushed. -/
def item? : Use α → Option α
  | .push x => some x
  | .take | .pass _ => none

/-- How much later it is afterwards. -/
def duration : Use α → Nat
  | .pass d => d
  | .push _ | .take => 0

def isTake : Use α → Bool
  | .take => true
  | .push _ | .pass _ => false

end Use

/-! ### Uses -/

/-- An accumulator in use, with the time and the batches that were taken out of it, first one
first. -/
structure InUse (α : Type) where
  accumulator : Accumulator α
  now : Nat
  batches : List (List α)

namespace InUse

/-- A new accumulator at a time. -/
def start (maxSize maxAge now : Nat) : InUse α :=
  ⟨.empty maxSize maxAge, now, []⟩

/-- Whether pushing an item is answered with the word that the accumulator is full. -/
def fills (u : InUse α) (x : α) : Bool :=
  (u.accumulator.push x u.now).isFull

def apply (u : InUse α) : Use α → InUse α
  | .push x => { u with accumulator := u.accumulator.push x u.now }
  | .take =>
    { u with
      accumulator := u.accumulator.take.2
      batches := u.batches ++ u.accumulator.take.1.toList }
  | .pass d => { u with now := u.now + d }

/-- An accumulator after some uses. -/
def after (u : InUse α) (uses : List (Use α)) : InUse α :=
  uses.foldl apply u

/-- Whether its user always takes out the items before pushing more, once told that it is full;
`told` says whether that is so at the beginning. -/
def servesPromptly (u : InUse α) (told : Bool) : List (Use α) → Bool
  | [] => true
  | .push x :: rest => !told && (u.apply (.push x)).servesPromptly (u.fills x) rest
  | .take :: rest => (u.apply .take).servesPromptly false rest
  | .pass d :: rest => (u.apply (.pass d)).servesPromptly told rest

end InUse

/-! ### What the uses say -/

/-- The items that are pushed, in order. -/
def pushed (uses : List (Use α)) : List α :=
  uses.filterMap Use.item?

/-- The time after some uses from a time on. -/
def clock (now : Nat) (uses : List (Use α)) : Nat :=
  uses.foldl (fun t x => t + x.duration) now

/-- Uses from a time on, each with its time. -/
def timed (now : Nat) : List (Use α) → List (Nat × Use α)
  | [] => []
  | x :: rest => (now, x) :: timed (now + x.duration) rest

/-- The items that were pushed since the last taking out, each with its time. -/
def recent (now : Nat) (uses : List (Use α)) : List (Nat × α) :=
  ((timed now uses).rtakeWhile fun p => !p.2.isTake).filterMap fun p => p.2.item?.map (p.1, ·)

theorem pushed_concat (uses : List (Use α)) (x : Use α) :
    pushed (uses ++ [x]) = pushed uses ++ x.item?.toList := by
  rw [pushed, List.filterMap_append]
  cases x <;> rfl

theorem timed_concat (now : Nat) (uses : List (Use α)) (x : Use α) :
    timed now (uses ++ [x]) = timed now uses ++ [(clock now uses, x)] := by
  induction uses generalizing now with
  | nil => rfl
  | cons y rest ih =>
    rw [List.cons_append, timed, timed, ih]
    rfl

/-- Nothing is recent when everything has just been taken out. -/
theorem recent_take (now : Nat) (uses : List (Use α)) : recent now (uses ++ [.take]) = [] := by
  have hnot : ¬ (!Use.isTake (.take : Use α)) = true := Bool.false_ne_true
  rw [recent, timed_concat, List.rtakeWhile_concat, if_neg hnot, List.filterMap_nil]

/-- Otherwise the same is recent as before, with the item that is pushed. -/
theorem recent_concat (now : Nat) (uses : List (Use α)) {x : Use α} (h : x.isTake = false) :
    recent now (uses ++ [x]) =
      recent now uses ++ (x.item?.map (clock now uses, ·)).toList := by
  have hpos : (!x.isTake) = true := by rw [h, Bool.not_false]
  rw [recent, timed_concat, List.rtakeWhile_concat, if_pos hpos, List.filterMap_append]
  cases x <;> rfl

/-! ### The account -/

/-- What is taken out is what waited. -/
theorem flatten_take (a : Accumulator α) : a.take.1.toList.flatten = a.pending := by
  rw [take, isEmpty]
  cases a.pending <;> simp

theorem ne_nil_of_take {a : Accumulator α} {batch : List α} (h : batch ∈ a.take.1.toList) :
    batch ≠ [] := by
  rw [take, isEmpty] at h
  cases hpending : a.pending with
  | nil => simp [hpending] at h
  | cons x rest =>
    obtain rfl : batch = x :: rest := by simpa [hpending] using h
    exact List.cons_ne_nil x rest

/-- How an accumulator stands after some uses from a time on. -/
structure Account (maxSize maxAge now : Nat) (uses : List (Use α)) (u : InUse α) : Prop where
  time : u.now = clock now uses
  size : u.accumulator.maxSize = max maxSize 1
  age : u.accumulator.maxAge = maxAge
  items : u.batches.flatten ++ u.accumulator.pending = pushed uses
  nonempty : ∀ batch ∈ u.batches, batch ≠ []
  pending : u.accumulator.pending = (recent now uses).map Prod.snd
  opened : u.accumulator.openedAt = (recent now uses).head?.map Prod.fst

variable {maxSize maxAge now : Nat} {uses : List (Use α)} {u : InUse α}

theorem account_start (maxSize maxAge now : Nat) :
    Account maxSize maxAge now [] (.start maxSize maxAge now : InUse α) :=
  ⟨rfl, rfl, rfl, rfl, nofun, rfl, rfl⟩

/-- **Every use keeps the account.** -/
theorem Account.apply (h : Account maxSize maxAge now uses u) (x : Use α) :
    Account maxSize maxAge now (uses ++ [x]) (u.apply x) := by
  have htime : (u.apply x).now = clock now (uses ++ [x]) := by
    have hclock : clock now (uses ++ [x]) = clock now uses + x.duration := List.foldl_append
    rw [hclock, ← h.time]
    cases x <;> rfl
  cases x with
  | push x =>
    have hrecent : recent now (uses ++ [.push x]) = recent now uses ++ [(u.now, x)] := by
      rw [recent_concat now uses rfl, h.time]
      rfl
    refine ⟨htime, h.size, h.age, ?_, h.nonempty, ?_, ?_⟩
    · rw [pushed_concat, ← h.items]
      exact (List.append_assoc _ _ _).symm
    · rw [hrecent, List.map_append, ← h.pending]
      rfl
    · -- The item that is pushed is the first one that waits only if none waited before.
      have hempty : u.accumulator.isEmpty = (recent now uses).isEmpty := by
        rw [isEmpty, h.pending, List.isEmpty_map]
      change (if u.accumulator.isEmpty then _ else _) = _
      rw [hrecent, hempty, h.opened]
      cases recent now uses <;> rfl
  | take =>
    have hrecent := recent_take now uses
    refine ⟨htime, h.size, h.age, ?_, ?_, by rw [hrecent]; rfl, by rw [hrecent]; rfl⟩
    · change (u.batches ++ u.accumulator.take.1.toList).flatten ++ [] = _
      rw [List.flatten_append, flatten_take, h.items, pushed_concat]
      rfl
    · exact List.forall_mem_append.mpr ⟨h.nonempty, fun batch => ne_nil_of_take⟩
  | pass d =>
    have hpushed : pushed (uses ++ [.pass d]) = pushed uses :=
      (pushed_concat uses _).trans (List.append_nil _)
    have hrecent : recent now (uses ++ [.pass d]) = recent now uses :=
      (recent_concat now uses rfl).trans (List.append_nil _)
    exact ⟨htime, h.size, h.age, hpushed ▸ h.items, h.nonempty, hrecent ▸ h.pending,
      hrecent ▸ h.opened⟩

theorem account_after (maxSize maxAge now : Nat) (uses : List (Use α)) :
    Account maxSize maxAge now uses ((InUse.start maxSize maxAge now).after uses) := by
  induction uses using List.reverseRecOn with
  | nil => exact account_start maxSize maxAge now
  | append_singleton uses x ih =>
    rw [InUse.after, List.foldl_append]
    exact ih.apply x

/-! ### Sizes -/

/-- Nothing above the size of a batch waits, or has been taken out. -/
structure IsBounded (maxSize : Nat) (u : InUse α) : Prop where
  size : u.accumulator.maxSize = maxSize
  pending : u.accumulator.pending.length ≤ maxSize
  batches : ∀ batch ∈ u.batches, batch.length ≤ maxSize

theorem IsBounded.push (h : IsBounded maxSize u) (hroom : u.accumulator.isFull = false) (x : α) :
    IsBounded maxSize (u.apply (.push x)) := by
  refine ⟨h.size, ?_, h.batches⟩
  rw [isFull, decide_eq_false_iff_not, h.size, Accumulator.size] at hroom
  change (u.accumulator.pending ++ [x]).length ≤ maxSize
  rw [List.length_append, List.length_singleton]
  omega

theorem IsBounded.take (h : IsBounded maxSize u) : IsBounded maxSize (u.apply .take) := by
  refine ⟨h.size, Nat.zero_le _, List.forall_mem_append.mpr ⟨h.batches, fun batch hbatch => ?_⟩⟩
  have hflat := flatten_take u.accumulator
  rw [Option.mem_toList.mp hbatch, Option.toList_some, List.flatten_singleton] at hflat
  exact hflat ▸ h.pending

/-- Where the accumulator is emptied as soon as it says that it is full, nothing goes above the
size of a batch. -/
theorem IsBounded.after (h : IsBounded maxSize u) (hpos : 0 < maxSize)
    (hprompt : u.servesPromptly u.accumulator.isFull uses) :
    IsBounded maxSize (u.after uses) := by
  induction uses generalizing u with
  | nil => exact h
  | cons x rest ih =>
    cases x with
    | push x =>
      rw [InUse.servesPromptly, Bool.and_eq_true, Bool.not_eq_true'] at hprompt
      exact ih (h.push hprompt.1 x) hprompt.2
    | take =>
      have hempty : (u.apply .take).accumulator.isFull = false := by
        rw [isFull, h.take.size]
        exact decide_eq_false (Nat.not_le.mpr hpos)
      rw [InUse.servesPromptly, ← hempty] at hprompt
      exact ih h.take hprompt
    | pass d => exact ih ⟨h.size, h.pending, h.batches⟩ hprompt

/-! ### Every sequence of uses -/

/-- What holds of an accumulator after some uses that began at a time. -/
structure Conduct (maxSize maxAge now : Nat) (uses : List (Use α)) (u : InUse α) : Prop where
  /-- All items are there, in the order in which they were pushed: first those of the batches,
  then those that wait. -/
  items : u.batches.flatten ++ u.accumulator.pending = pushed uses
  nonempty : ∀ batch ∈ u.batches, batch ≠ []
  /-- What waits was pushed since the last taking out. -/
  pending : u.accumulator.pending = (recent now uses).map Prod.snd
  /-- The deadline counts from the first item that waits. -/
  deadline : u.accumulator.deadline? = (recent now uses).head?.map fun p => p.1 + maxAge
  armed : u.accumulator.deadline?.isSome ↔ u.accumulator.pending ≠ []
  fills : ∀ x, u.fills x ↔ max maxSize 1 ≤ (u.apply (.push x)).accumulator.pending.length
  bounded : (InUse.start maxSize maxAge now).servesPromptly false uses →
    ∀ batch ∈ u.batches, batch.length ≤ max maxSize 1

/-- **Accumulators**, whatever is done with them. -/
theorem conduct_after (maxSize maxAge now : Nat) (uses : List (Use α)) :
    Conduct maxSize maxAge now uses ((InUse.start maxSize maxAge now).after uses) := by
  have h := account_after maxSize maxAge now uses
  have hdeadline : ((InUse.start maxSize maxAge now).after uses).accumulator.deadline? =
      (recent now uses).head?.map fun p => p.1 + maxAge := by
    rw [deadline?, h.opened, h.age, Option.map_map]
    rfl
  refine ⟨h.items, h.nonempty, h.pending, hdeadline, ?_, fun x => ?_, fun hprompt => ?_⟩
  · rw [hdeadline, h.pending]
    cases recent now uses <;> simp
  · rw [InUse.fills, isFull, decide_eq_true_iff]
    change ((InUse.start maxSize maxAge now).after uses).accumulator.maxSize ≤ _ ↔ _
    rw [h.size]
    rfl
  · have hpos : 0 < max maxSize 1 := Nat.lt_of_lt_of_le Nat.one_pos (Nat.le_max_right _ _)
    have hstart : IsBounded (max maxSize 1) (InUse.start maxSize maxAge now : InUse α) :=
      ⟨rfl, Nat.zero_le _, nofun⟩
    have hroom : (InUse.start maxSize maxAge now : InUse α).accumulator.isFull = false :=
      decide_eq_false (Nat.not_le.mpr hpos)
    rw [← hroom] at hprompt
    exact (hstart.after hpos hprompt).batches

/-- Two items fill an accumulator for two; the third one has a deadline of its own. -/
theorem conduct_after_pairs :
    let uses : List (Use String) :=
      [.take, .push "a", .pass 5, .push "b", .pass 1, .take, .pass 3, .push "c", .pass 2]
    let u := (InUse.start 2 10 100).after uses
    (InUse.start 2 10 100).servesPromptly false uses ∧
      (∀ batch ∈ u.batches, batch.length ≤ 2) ∧ u.batches = [["a", "b"]] ∧
      u.accumulator.deadline? = some 119 := by
  intro uses u
  have h := conduct_after 2 10 100 uses
  exact ⟨by decide, h.bounded (by decide), by decide, h.deadline.trans (by decide)⟩

end LogIntake.Accumulator
