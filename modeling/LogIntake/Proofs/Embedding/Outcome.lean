import LogIntake.Proofs.Embedding.Attempts
import LogIntake.Proofs.Text.Blank
import Mathlib.Order.Bounds.Basic

/-!
# What embedding a text comes to

A client goes on asking until an outcome is **final** or the budget is used up: success, a failure
that another attempt would not mend, and a provider that breaks are final, whatever came before.
The last attempt is the least one of this kind (`Tries.isLeast`), and alone decides what the client
reports (`Conclusion`): a vector if it is as long as it must be, a fault of the provider as it is if
it is permanent, and otherwise that the provider is not available. What may pass is never reported.
-/

namespace LogIntake

/-! ### The last attempt -/

/-- Whether an attempt with this outcome is the last one, however much of the budget is left. -/
inductive Response.IsFinal {α : Type} : Response α → Prop
  | gives (a : α) : IsFinal (.gives a)
  | fails {f : Fault} (h : f.isTransient = false) : IsFinal (.fails f)
  | breaks : IsFinal .breaks

theorem Response.isFinal_iff {α : Type} {o : Response α} : o.IsFinal ↔ o.isTransient = false := by
  constructor
  · rintro (_ | h | _)
    · rfl
    · exact h
    · rfl
  · intro h
    cases o with
    | gives a => exact .gives a
    | fails f => exact .fails h
    | breaks => exact .breaks

namespace Client

variable {c : Client} {reply : Nat → Reply Embedding} {k : Nat} {o : Response Embedding}

/-- The attempts, counted from one, after which a client stops: those with a final outcome, and
the last one of the budget. -/
def stops (c : Client) (reply : Nat → Reply Embedding) : Set Nat :=
  {n | 0 < n ∧ ((c.outcome (reply (n - 1))).IsFinal ∨ n = c.retry.maxRetries.toNat + 1)}

/-- The last attempt is the first one of these. -/
theorem Tries.isLeast (h : c.Tries reply 0 k) : IsLeast (c.stops reply) k := by
  refine ⟨⟨h.lt, h.last.symm.imp_left fun hlast => ?_⟩, fun n ⟨hpos, hstops⟩ => ?_⟩
  · exact Response.isFinal_iff.mpr (Bool.eq_false_of_not_eq_true hlast)
  · by_contra hlt
    have htransient := h.retried (n - 1) (Nat.zero_le _) (by omega)
    obtain hfinal | hlast := hstops
    · rw [Response.isFinal_iff, htransient] at hfinal
      cases hfinal
    · have hle := h.le
      omega

/-! ### The report -/

/-- What a client reports after `k` attempts, the last one of which had an outcome. -/
structure Conclusion (c : Client) (k : Nat) (o : Response Embedding)
    (r : Option (Response Embedding)) : Prop where
  /-- A vector is the result if it is as long as it must be. -/
  embedded : ∀ v, r = some (.gives v) ↔ o = .gives v ∧ v.length = c.dimension
  /-- A wrong length is reported for a vector of another length, and otherwise only where the
  attempt itself failed with just this fault. -/
  mismatch : ∀ m n, r = some (.fails (.embeddingDimension m n)) ↔
    (∃ v, o = .gives v ∧ v.length ≠ c.dimension ∧ m = c.dimension ∧ n = v.length) ∨
      o = .fails (.embeddingDimension m n)
  /-- A permanent fault is reported as it is. -/
  permanent : ∀ f, o = .fails f → f.isTransient = false → r = some (.fails f)
  /-- With a fault that may pass, the budget is used up, and this is reported with the number of
  attempts and the text of the fault. -/
  exhausted : ∀ f, o = .fails f → f.isTransient = true → k = c.retry.maxRetries.toNat + 1 ∧
    ∃ attempts : UInt32, attempts.toNat = k ∧
      r = some (.fails (.embeddingExhausted attempts f.message))
  /-- If the provider breaks, so does the client. -/
  breaks : o = .breaks → r = some .breaks
  /-- Nothing that is reported may pass. -/
  settled : ∀ f, r = some (.fails f) → f.isTransient = false

theorem conclusion_gives (c : Client) (k : Nat) (v : Embedding) (attempts : UInt32) :
    c.Conclusion k (.gives v) (some (c.verdict attempts (.gives v))) := by
  by_cases hlength : v.length = c.dimension
  · have hverdict : c.verdict attempts (.gives v) = .gives v := if_pos hlength
    rw [hverdict]
    constructor <;> simp_all
  · have hverdict : c.verdict attempts (.gives v) =
        .fails (.embeddingDimension c.dimension v.length) := if_neg hlength
    rw [hverdict]
    constructor
    case embedded =>
      refine fun w => iff_of_false nofun ?_
      rintro ⟨⟨⟩, hw⟩
      exact hlength hw
    case mismatch =>
      intro m n
      constructor
      · rintro ⟨⟩
        exact .inl ⟨v, rfl, hlength, rfl, rfl⟩
      · rintro (⟨_, ⟨⟩, -, rfl, rfl⟩ | hsame)
        · rfl
        · cases hsame
    case settled =>
      rintro _ ⟨⟩
      rfl
    case permanent | exhausted | breaks => exact nofun

/-- A fault that may pass was the last one of the budget. -/
theorem conclusion_fails {f : Fault} {attempts : UInt32} (hcount : attempts.toNat = k)
    (hlast : f.isTransient → k = c.retry.maxRetries.toNat + 1) :
    c.Conclusion k (.fails f) (some (c.verdict attempts (.fails f))) := by
  cases htransient : f.isTransient with
  | true =>
    have hverdict : c.verdict attempts (.fails f) =
        .fails (.embeddingExhausted attempts f.message) :=
      congrArg Response.fails (if_pos htransient)
    rw [hverdict]
    constructor
    case embedded => exact fun w => iff_of_false nofun nofun
    case mismatch =>
      refine fun m n => iff_of_false nofun ?_
      rintro (⟨_, hgives, -⟩ | hsame)
      · cases hgives
      · cases hsame
        exact Bool.false_ne_true htransient
    case permanent =>
      rintro _ ⟨⟩ hpermanent
      exact absurd (htransient.symm.trans hpermanent) nofun
    case exhausted =>
      rintro _ ⟨⟩ -
      exact ⟨hlast htransient, attempts, hcount, rfl⟩
    case settled =>
      rintro _ ⟨⟩
      rfl
    case breaks => exact nofun
  | false =>
    have hverdict : c.verdict attempts (.fails f) = .fails f :=
      congrArg Response.fails (if_neg (Bool.eq_false_iff.mp htransient))
    rw [hverdict]
    constructor <;> simp_all

/-- The verdict on the last attempt is such a report. -/
theorem Tries.conclusion (h : c.Tries reply 0 k) (hmax : c.retry.IsFinite) :
    c.Conclusion k (c.outcome (reply (k - 1)))
      (some (c.verdict (UInt32.ofNat k) (c.outcome (reply (k - 1))))) := by
  cases ho : c.outcome (reply (k - 1)) with
  | gives v => exact conclusion_gives c k v _
  | fails f =>
    refine conclusion_fails (Backoff.toNat_ofNat_attempts hmax h.le) fun htransient => ?_
    refine h.last.resolve_right (not_not_intro ?_)
    rw [ho]
    exact htransient
  | breaks => constructor <;> simp [verdict]

/-! ### Every text -/

/-- **Embedding a text**, whatever the provider replies and however long it takes: a blank text is
refused without an attempt. Any other text takes as many attempts as it needs, none of which begins
before the one before it has ended, and the last one decides. -/
theorem embed_outcome (c : Client) (hmax : c.retry.maxRetries < 0xFFFFFFFF) (text : String)
    (reply : Nat → Reply Embedding) (now fuel : Nat)
    (hfuel : 5 * (c.retry.maxRetries.toNat + 1) ≤ fuel) :
    let tr := c.embed text reply now fuel
    (Text.trim text = "" → tr.attempts = [] ∧
      tr.result = some (.fails (.embeddingRejected "text is empty"))) ∧
    (Text.trim text ≠ "" → ∃ k, IsLeast (c.stops reply) k ∧ tr.attempts.length = k ∧
      c.Spaced reply 0 tr.attempts ∧ c.Conclusion k (c.outcome (reply (k - 1))) tr.result) ∧
    ∀ f, tr.result = some (.fails f) → f.isTransient = false := by
  intro tr
  have hne : c.retry.maxRetries ≠ 0xFFFFFFFF := UInt32.ne_of_lt hmax
  by_cases hblank : Text.isBlankText text
  · obtain ⟨g, rfl⟩ : ∃ g, fuel = g + 1 := ⟨fuel - 1, by omega⟩
    have htr : tr = ⟨some (.fails blankText), [], now⟩ := embed_blank c reply now g hblank
    rw [htr]
    refine ⟨fun _ => ⟨rfl, rfl⟩, fun htrim => absurd (Text.trim_eq_empty_iff.mpr hblank) htrim, ?_⟩
    rintro _ ⟨⟩
    rfl
  · obtain ⟨k, hk⟩ := embed_spec hblank hne reply now hfuel
    have hconclusion := hk.tries.conclusion hne
    rw [← hk.result] at hconclusion
    refine ⟨fun htrim => absurd (Text.trim_eq_empty_iff.mp htrim) hblank, fun _ => ?_,
      hconclusion.settled⟩
    obtain ⟨later, hattempts, -, hspaced⟩ := hk.attempts
    refine ⟨k, hk.tries.isLeast, hk.length_attempts, ?_, hconclusion⟩
    rw [hattempts]
    exact hspaced

/-- A provider that is too slow at first, has no room then, and gives three components at last. -/
def hesitant : Nat → Reply Embedding
  | 0 => .after 2000 (.gives [⟨0⟩, ⟨0⟩])
  | 1 => .after 10 (.fails .queueFull)
  | _ => .after 10 (.gives [⟨0⟩, ⟨0⟩, ⟨0⟩])

/-- Where two components are wanted, the third attempt is the last one. -/
theorem embed_outcome_hesitant :
    let c : Client := ⟨2, 1000, .standard⟩
    let tr := c.embed "disk full" hesitant 0 20
    c.retry.maxRetries < 0xFFFFFFFF ∧ 5 * (c.retry.maxRetries.toNat + 1) ≤ 20 ∧
      Text.trim "disk full" ≠ "" ∧ tr.attempts.length = 3 ∧
      tr.result = some (.fails (.embeddingDimension 2 3)) := by
  intro c tr
  have htext : Text.trim "disk full" ≠ "" := by decide
  obtain ⟨k, hk, hlength, -, hconclusion⟩ :=
    (embed_outcome c (by decide) "disk full" hesitant 0 20 (by decide)).2.1 htext
  have hthird : IsLeast (c.stops hesitant) 3 := by
    refine ⟨⟨by decide, .inl (.gives _)⟩, fun n ⟨hpos, hstops⟩ => ?_⟩
    rw [Response.isFinal_iff] at hstops
    match n with
    | 1 | 2 => exact absurd hstops (by decide)
    | n + 3 => exact Nat.le_add_left 3 n
  obtain rfl := hk.unique hthird
  exact ⟨by decide, by decide, htext, hlength,
    (hconclusion.mismatch 2 3).mpr (.inl ⟨_, rfl, by decide, rfl, rfl⟩)⟩

end Client

end LogIntake
