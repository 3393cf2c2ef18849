import Mathlib.Data.List.Forall2
import LogIntake.Proofs.Dedup.Script

/-!
# Suppression is monotone

An embedding joins its window whatever the decision on it is, so windows do not depend on
decisions, nor on what these go by: on the threshold and on the number of examples. Of two
deduplicators that differ in these alone, the one with the lower ones suppresses whatever the
other one does (`Deduplicator.outcomes_monotone`), operation by operation, in every script.
-/

namespace LogIntake

open Number (Single)

/-- What is similar at a threshold is similar at a lower one. -/
theorem Embedding.similar_mono {t u : Single} (h : t.le u = true) {a b : Embedding}
    (hsimilar : similar u a b = true) : similar t a b = true := by
  rw [similar] at hsimilar ⊢
  cases hcosine : cosine? a b with
  | none => rw [hcosine] at hsimilar; cases hsimilar
  | some c =>
    rw [hcosine] at hsimilar
    exact Single.le_trans h hsimilar

theorem Window.similarTo_anti {t u : Single} (h : t.le u = true) (w : Window) (v : Embedding) :
    w.similarTo u v ≤ w.similarTo t v :=
  List.countP_mono_left fun _ _ => Embedding.similar_mono h

namespace Deduplicator

/-- Two deduplicators with the same windows, of which the first one is at least as ready to
suppress. -/
structure IsLaxer (d d' : Deduplicator) : Prop where
  windows : d.windows = d'.windows
  maxEntries : d.settings.maxEntries = d'.settings.maxEntries
  maxAge : d.settings.maxAge = d'.settings.maxAge
  maxStreams : d.settings.maxStreams = d'.settings.maxStreams
  threshold : d.settings.threshold.le d'.settings.threshold = true
  minExamples : d.settings.minExamples ≤ d'.settings.minExamples

variable {d d' : Deduplicator}

/-- The decision goes by what is similar in the window of the stream, without what is too old. -/
theorem fst_considerBy (idlest : List (String × Window) → Option String) (d : Deduplicator)
    (stream : String) (v : Embedding) (now : Nat) :
    (d.considerBy idlest stream v now).1 = .suppress ↔ d.settings.minExamples.toNat ≤
      (((if (d.window? stream).isSome then d.windows else d.makeRoom idlest).lookup
        stream).getD (.empty now) |>.expire now d.settings.maxAge).similarTo
          d.settings.threshold v := by
  simp only [considerBy]
  split <;> simp [*]

/-- An operation leaves the windows the same, and what it suppresses by the second deduplicator
it suppresses by the first one. -/
theorem IsLaxer.apply (h : d.IsLaxer d') (tie : TieBreak) (op : Op) :
    (d.apply tie op).2.IsLaxer (d'.apply tie op).2 ∧
      ((d'.apply tie op).1 = some .suppress → (d.apply tie op).1 = some .suppress) := by
  obtain ⟨hwindows, hentries, hage, hstreams, hthreshold, hexamples⟩ := h
  cases op with
  | expire now =>
    refine ⟨⟨?_, hentries, hage, hstreams, hthreshold, hexamples⟩, nofun⟩
    simp only [Deduplicator.apply, expire, hwindows, hage]
  | consider stream v now =>
    have hroom : d.makeRoom tie.choose = d'.makeRoom tie.choose := by
      rw [makeRoom, makeRoom, hwindows, hstreams]
    have hwindow : d.window? stream = d'.window? stream := by rw [window?, window?, hwindows]
    refine ⟨⟨?_, hentries, hage, hstreams, hthreshold, hexamples⟩, fun hsuppress => ?_⟩
    · simp only [Deduplicator.apply, considerBy, hwindows, hroom, hwindow, hentries, hage]
    · have hstrict := (fst_considerBy tie.choose d' stream v now).mp (Option.some.inj hsuppress)
      refine congrArg some ((fst_considerBy tie.choose d stream v now).mpr ?_)
      rw [hwindows, hroom, hwindow, hage]
      calc d.settings.minExamples.toNat ≤ d'.settings.minExamples.toNat :=
            UInt32.le_iff_toNat_le.mp hexamples
        _ ≤ _ := hstrict
        _ ≤ _ := Window.similarTo_anti hthreshold _ v

theorem IsLaxer.outcomes (h : d.IsLaxer d') (script : List (TieBreak × Op)) :
    List.Forall₂ (fun lax strict =>
        lax.2.windows = strict.2.windows ∧
          (strict.1 = some .suppress → lax.1 = some .suppress))
      (d.outcomes script) (d'.outcomes script) := by
  induction script generalizing d d' with
  | nil => exact .nil
  | cons step rest ih =>
    obtain ⟨hnext, hsuppress⟩ := h.apply step.1 step.2
    exact .cons ⟨hnext.windows, hsuppress⟩ (ih hnext)

/-- **Suppression is monotone**: of two deduplicators whose settings differ in the threshold and
in the number of examples alone, the one with the lower ones suppresses whatever the other one
does, and both hold the same windows throughout. -/
theorem outcomes_monotone (s : DedupSettings) {t : Single} {m : UInt32}
    (ht : s.threshold.le t = true) (hm : s.minExamples ≤ m) (script : List (TieBreak × Op)) :
    List.Forall₂ (fun lax strict =>
        lax.2.windows = strict.2.windows ∧
          (strict.1 = some .suppress → lax.1 = some .suppress))
      ((empty s).outcomes script)
      ((empty { s with threshold := t, minExamples := m }).outcomes script) := by
  have hlaxer : (empty s).IsLaxer (empty { s with threshold := t, minExamples := m }) :=
    ⟨rfl, rfl, rfl, rfl, ht, hm⟩
  exact hlaxer.outcomes script

/-- Zero and one as thresholds, one example and two, and one stream that takes the place of
another one. -/
theorem outcomes_monotone_zero_one :
    Single.zero.le .one = true ∧ (1 : UInt32) ≤ 2 ∧
      List.Forall₂ (fun lax strict =>
          lax.2.windows = strict.2.windows ∧
            (strict.1 = some .suppress → lax.1 = some .suppress))
        ((empty ⟨.zero, 1, 3, 5, 1⟩).outcomes [(.first, .consider "a" [.one] 1),
          (.first, .consider "a" [.one] 1), (.first, .expire 0), (.first, .consider "b" [.one] 0)])
        ((empty ⟨.one, 2, 3, 5, 1⟩).outcomes [(.first, .consider "a" [.one] 1),
          (.first, .consider "a" [.one] 1), (.first, .expire 0),
          (.first, .consider "b" [.one] 0)]) := by
  have ht : Single.zero.le .one = true := by decide
  have hm : (1 : UInt32) ≤ 2 := by decide
  exact ⟨ht, hm, outcomes_monotone ⟨.zero, 1, 3, 5, 1⟩ ht hm _⟩

end Deduplicator

end LogIntake
