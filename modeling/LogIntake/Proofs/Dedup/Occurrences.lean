import LogIntake.Proofs.Dedup.Bounds
import LogIntake.Proofs.Dedup.Compared
import LogIntake.Proofs.Dedup.Reference

/-!
# The first examples of each pattern

A **span** of a stream is a part of a script in which the window of the stream loses nothing that
came in this part (`IsSpan`): the stream is not forgotten, the embeddings all fit in the window, and
none of them becomes too old before the last one comes. The window then holds what has come in the
span so far, whatever is decided on other streams and swept away in between, so each embedding is
compared with all embeddings of the span before it (`IsSpan.decisionsOn_eq`).

Where the embeddings are of **patterns**, the similar ones being those of one pattern (`Divides`),
as many of each pattern are accepted as there must be examples, and all others are suppressed
(`first_occurrences`).
-/

namespace LogIntake

namespace Deduplicator

variable {d d' : Deduplicator} {stream : String} {v : Embedding} {now t : Nat}

/-! ### Scripts seen from one stream -/

/-- The embedding of a stream that an operation brings, with the time at which it comes. -/
def Op.sighting? (stream : String) : Op → Option Sighting
  | .consider other v now => if other = stream then some ⟨v, now⟩ else none
  | .expire _ => none

/-- The embeddings of a stream in a script. -/
def sightingsIn (stream : String) (script : List (TieBreak × Op)) : List Sighting :=
  script.filterMap fun step => step.2.sighting? stream

/-- The decisions on a stream in a script. -/
def decisionsOn (stream : String) (d : Deduplicator) (script : List (TieBreak × Op)) :
    List Decision :=
  (script.zip (d.outcomes script)).filterMap fun x =>
    if (x.1.2.sighting? stream).isSome then x.2.1 else none

/-- Whether no decision in a script takes the window of a stream away. Sweeps are not asked: what
they leave without a window had nothing in it that still counted. -/
def Keeps (stream : String) (d : Deduplicator) : List (TieBreak × Op) → Prop
  | [] => True
  | (tie, op) :: rest =>
    (op.isConsider = true → (d.window? stream).isSome = true →
        ((d.apply tie op).2.window? stream).isSome = true) ∧
      Keeps stream (d.apply tie op).2 rest

instance Keeps.decidable (stream : String) (d : Deduplicator) :
    (script : List (TieBreak × Op)) → Decidable (Keeps stream d script)
  | [] => .isTrue trivial
  | (tie, op) :: rest =>
    have := Keeps.decidable stream (d.apply tie op).2 rest
    inferInstanceAs (Decidable (_ ∧ Keeps stream (d.apply tie op).2 rest))

/-- A part of a script, begun with a deduplicator, in which a stream loses nothing that came in this
part. -/
structure IsSpan (stream : String) (d : Deduplicator) (script : List (TieBreak × Op)) : Prop where
  /-- Time does not go back. -/
  chronological : (script.map fun step => step.2.now).Pairwise (· ≤ ·)
  keeps : Keeps stream d script
  /-- All embeddings of the stream fit in its window, apart from the last one, which is only
  compared. -/
  fits : (sightingsIn stream script).length ≤ max d.settings.maxEntries 1 + 1
  /-- The last embedding of the stream comes before the first one is too old. -/
  young : ∀ x ∈ sightingsIn stream script, ∀ y ∈ sightingsIn stream script,
    y.time - x.time ≤ d.settings.maxAge
  /-- When the first embedding of the stream comes, no earlier one counts. -/
  fresh : ∀ x ∈ (sightingsIn stream script).head?, (d.present stream x.time).sightings = []

/-! ### What an embedding is compared with -/

theorem present_eq (d : Deduplicator) (stream : String) (now : Nat) :
    (d.present stream now).sightings = ((d.window? stream).elim [] Window.sightings).filter
      fun x => now - x.time ≤ d.settings.maxAge := by
  rw [present, windowOf, window?]
  cases d.windows.lookup stream <;> rfl

/-- What counts of a stream changes by a sweep only with the time. -/
theorem IsBounded.present_expire (hd : d.IsBounded) (stream : String) (ht : t ≤ now) :
    ((d.expire t).present stream now).sightings = (d.present stream now).sightings := by
  have hswept := hd.swept t
  have hage := fun xs => filter_age_filter_age xs d.settings.maxAge ht
  rw [present_eq, present_eq, hswept.window, hswept.settings]
  cases d.window? stream with
  | none => rfl
  | some w =>
    dsimp only [Option.bind_some, Option.elim_some]
    split
    · rename_i hnil
      rw [← hage w.sightings, hnil]
      rfl
    · exact hage w.sightings

/-- What counts of a stream stays by a decision on another stream that does not forget it. -/
theorem IsBounded.present_considerBy_of_ne (hd : d.IsBounded) (tie : TieBreak) {other : String}
    (hne : stream ≠ other) (hkeeps : (d.window? stream).isSome = true →
      ((d.considerBy tie.choose other v t).2.window? stream).isSome = true) (now : Nat) :
    ((d.considerBy tie.choose other v t).2.present stream now).sightings =
      (d.present stream now).sightings := by
  have hconsidered := hd.considered tie other v t
  have hsame : (d.considerBy tie.choose other v t).2.window? stream = d.window? stream := by
    by_cases hspare : (d.window? other).isSome ∨ d.streamCount < max d.settings.maxStreams 1
    · exact hconsidered.spared hspare stream hne
    · obtain ⟨hnew, hfull⟩ := not_or.mp hspare
      obtain ⟨idlest, w, hidlest, -, hnone, hothers⟩ := hconsidered.forgets
        (Option.not_isSome_iff_eq_none.mp hnew) (Nat.not_lt.mp hfull)
      -- The stream that is forgotten is another one, as this one keeps its window.
      have hidle : stream ≠ idlest := by
        rintro rfl
        rw [hidlest, hnone] at hkeeps
        exact Bool.false_ne_true (hkeeps rfl)
      exact hothers stream hne hidle
  rw [present_eq, present_eq, hsame, hconsidered.settings]

/-- A decision on a stream, from what counts of it. -/
theorem fst_considerBy_present (d : Deduplicator) (tie : TieBreak) (stream : String)
    (v : Embedding) (now : Nat) : (d.considerBy tie.choose stream v now).1 =
      decide d.settings ((d.present stream now).sightings.map Sighting.vector) v := by
  obtain ⟨room, -, heq⟩ := d.considerBy_eq_present tie.choose stream v now
  rw [heq, decide, List.countP_map]
  rfl

/-- What counts of a stream after a decision on it, where the window is not full and nothing in it
is too old: what counted before, and what has come. -/
theorem present_considerBy_self (d : Deduplicator) (tie : TieBreak) {past : List Sighting}
    (hpast : (d.present stream t).sightings = past)
    (hfits : past.length + 1 ≤ max d.settings.maxEntries 1)
    (hyoung : ∀ x ∈ past ++ [⟨v, t⟩], now - x.time ≤ d.settings.maxAge) :
    ((d.considerBy tie.choose stream v t).2.present stream now).sightings = past ++ [⟨v, t⟩] := by
  obtain ⟨room, -, heq⟩ := d.considerBy_eq_present tie.choose stream v t
  have hkeep : Window.keepLast (max d.settings.maxEntries 1) (past ++ [⟨v, t⟩]) =
      past ++ [⟨v, t⟩] := by
    have hlength : (past ++ [(⟨v, t⟩ : Sighting)]).length = past.length + 1 := List.length_append
    rw [Window.keepLast, hlength, Nat.sub_eq_zero_of_le hfits, List.drop_zero]
  rw [present_eq, heq, window?, lookup_put, if_pos rfl]
  dsimp only [Option.elim_some, Window.push]
  rw [hpast, hkeep]
  exact List.filter_eq_self.mpr fun x hx => decide_eq_true (hyoung x hx)

/-! ### The decisions in a span -/

/-- The decisions on embeddings each of which is compared with all before it. -/
def judged (s : DedupSettings) (past : List Embedding) : List Embedding → List Decision
  | [] => []
  | v :: vs => decide s past v :: judged s (past ++ [v]) vs

theorem sightingsIn_cons (stream : String) (tie : TieBreak) (op : Op)
    (rest : List (TieBreak × Op)) : sightingsIn stream ((tie, op) :: rest) =
      (op.sighting? stream).toList ++ sightingsIn stream rest := by
  rw [sightingsIn, List.filterMap_cons]
  cases op.sighting? stream <;> rfl

theorem decisionsOn_cons (stream : String) (d : Deduplicator) (tie : TieBreak) (op : Op)
    (rest : List (TieBreak × Op)) : decisionsOn stream d ((tie, op) :: rest) =
      (if (op.sighting? stream).isSome then (d.apply tie op).1.toList else []) ++
        decisionsOn stream (d.apply tie op).2 rest := by
  rw [decisionsOn, outcomes, List.zip_cons_cons, List.filterMap_cons]
  cases op.sighting? stream with
  | none => rfl
  | some x => cases (d.apply tie op).1 <;> rfl

/-- Only decisions on a stream bring something of it. -/
theorem eq_consider_of_sighting? {op : Op} {x : Sighting} (h : op.sighting? stream = some x) :
    op = .consider stream x.vector x.time := by
  cases op with
  | consider other v now =>
    rw [Op.sighting?] at h
    split at h
    · rename_i heq
      obtain rfl := Option.some.inj h
      rw [heq]
    · cases h
  | expire now => cases h

/-- What is seen of a stream comes at the time of some operation. -/
theorem exists_now_of_mem_sightingsIn {script : List (TieBreak × Op)} {x : Sighting}
    (hx : x ∈ sightingsIn stream script) : x.time ∈ script.map fun step => step.2.now := by
  obtain ⟨⟨tie, op⟩, hstep, hop⟩ := List.mem_filterMap.mp hx
  obtain rfl := eq_consider_of_sighting? hop
  exact List.mem_map.mpr ⟨_, hstep, rfl⟩

/-- What counts of a stream stays by whatever brings nothing of it and does not forget it. -/
theorem IsBounded.present_apply (hd : d.IsBounded) (tie : TieBreak) {op : Op}
    (hop : op.sighting? stream = none)
    (hkeep : op.isConsider = true → (d.window? stream).isSome = true →
      ((d.apply tie op).2.window? stream).isSome = true) (hnow : op.now ≤ now) :
    ((d.apply tie op).2.present stream now).sightings = (d.present stream now).sightings := by
  cases op with
  | consider other v t =>
    have hne : stream ≠ other := by
      rintro rfl
      simp [Op.sighting?] at hop
    exact hd.present_considerBy_of_ne tie hne (hkeep rfl) now
  | expire t => exact hd.present_expire stream hnow

/-- The decisions in the rest of a span, where the embeddings that came before are those that
count when the next one comes. -/
theorem IsBounded.decisionsOn_eq (hd : d.IsBounded) (script : List (TieBreak × Op))
    (hchron : (script.map fun step => step.2.now).Pairwise (· ≤ ·))
    (hkeeps : Keeps stream d script) (past : List Sighting)
    (hfits : past.length + (sightingsIn stream script).length ≤
      max d.settings.maxEntries 1 + 1)
    (hyoung : ∀ x ∈ past ++ sightingsIn stream script, ∀ y ∈ sightingsIn stream script,
      y.time - x.time ≤ d.settings.maxAge)
    (hpast : ∀ x ∈ (sightingsIn stream script).head?,
      (d.present stream x.time).sightings = past) :
    decisionsOn stream d script =
      judged d.settings (past.map Sighting.vector)
        ((sightingsIn stream script).map Sighting.vector) := by
  induction script generalizing d past with
  | nil => rfl
  | cons step rest ih =>
    obtain ⟨tie, op⟩ := step
    obtain ⟨hfirst, hlater⟩ := List.pairwise_cons.mp hchron
    obtain ⟨hkeep, hkept⟩ := hkeeps
    have ih := ih (hd.apply tie op) hlater hkept
    rw [d.settings_apply tie op] at ih
    rw [sightingsIn_cons] at hfits hyoung hpast ⊢
    rw [decisionsOn_cons]
    cases hop : op.sighting? stream with
    | none =>
      rw [hop] at hfits hyoung hpast
      refine ih past hfits hyoung fun x hx => ?_
      have hnow : op.now ≤ x.time :=
        hfirst _ (exists_now_of_mem_sightingsIn (List.mem_of_mem_head? hx))
      rw [hd.present_apply tie hop hkeep hnow]
      exact hpast x hx
    | some x =>
      rw [hop] at hfits hyoung hpast
      obtain rfl := eq_consider_of_sighting? hop
      have hpresent : (d.present stream x.time).sightings = past := hpast x rfl
      have hdecision : (d.apply tie (.consider stream x.vector x.time)).1 =
          some (decide d.settings (past.map Sighting.vector) x.vector) := by
        rw [← hpresent, ← fst_considerBy_present d tie]
        rfl
      have hlength : (past ++ [x]).length + (sightingsIn stream rest).length ≤
          max d.settings.maxEntries 1 + 1 := by
        rw [Option.toList_some, List.length_append] at hfits
        rw [List.length_append]
        omega
      have hage : ∀ y ∈ (past ++ [x]) ++ sightingsIn stream rest,
          ∀ z ∈ sightingsIn stream rest, z.time - y.time ≤ d.settings.maxAge := by
        intro y hy z hz
        rw [List.append_assoc] at hy
        exact hyoung y hy z (List.mem_append_right _ hz)
      have hrest := ih (past ++ [x]) hlength hage fun y hy => ?_
      · rw [hrest, hdecision, List.map_append]
        rfl
      · -- As another one comes, the window has room for this one beside those before it.
        have hmem := List.mem_of_mem_head? hy
        have hpos := List.length_pos_of_mem hmem
        rw [List.length_append, List.length_singleton] at hlength
        refine d.present_considerBy_self tie hpresent (by omega) fun z hz => ?_
        exact hage z (List.mem_append_left _ hz) y hmem

/-- **The decisions in a span** are those on embeddings each of which is compared with all before
it. -/
theorem IsSpan.decisionsOn_eq {script : List (TieBreak × Op)} (h : IsSpan stream d script)
    (hd : d.IsBounded) : decisionsOn stream d script =
      judged d.settings [] ((sightingsIn stream script).map Sighting.vector) := by
  have hfits : 0 + (sightingsIn stream script).length ≤ max d.settings.maxEntries 1 + 1 := by
    rw [Nat.zero_add]
    exact h.fits
  exact hd.decisionsOn_eq script h.chronological h.keeps [] hfits h.young h.fresh

/-! ### Patterns -/

/-- Whether embeddings are of patterns: two of them are similar just when they are of one pattern,
the one that comes first being the first argument. -/
structure Divides {ι : Type} (threshold : Number.Single) (patterns : List ι)
    (vectors : List Embedding) : Prop where
  length : patterns.length = vectors.length
  similar : (patterns.zip vectors).Pairwise fun x y =>
    Embedding.similar threshold x.2 y.2 = true ↔ x.1 = y.1

variable {ι : Type} [DecidableEq ι]

/-- The decisions on the elements of a pattern. -/
def ofPattern (p : ι) (patterns : List ι) (decisions : List Decision) : List Decision :=
  ((patterns.zip decisions).filter fun x => x.1 = p).map Prod.snd

theorem ofPattern_cons (p q : ι) (patterns : List ι) (decision : Decision)
    (decisions : List Decision) : ofPattern p (q :: patterns) (decision :: decisions) =
      if q = p then decision :: ofPattern p patterns decisions
      else ofPattern p patterns decisions := by
  rw [ofPattern, List.zip_cons_cons, List.filter_cons]
  by_cases h : q = p
  · simp [h, ofPattern]
  · simp [h, ofPattern]

/-- As many acceptances as there are examples to be seen, and suppressions after them. -/
def acceptedFirst (examples count : Nat) : List Decision :=
  List.replicate (min examples count) .accept ++ List.replicate (count - examples) .suppress

theorem acceptedFirst_succ (examples count : Nat) : acceptedFirst examples (count + 1) =
    (if examples = 0 then .suppress else .accept) :: acceptedFirst (examples - 1) count := by
  cases examples with
  | zero => simp [acceptedFirst, List.replicate_succ]
  | succ examples =>
    have hmin : min (examples + 1) (count + 1) = min examples count + 1 := by omega
    simp [acceptedFirst, hmin, List.replicate_succ]

/-- The decisions on a pattern, where each embedding is compared with all before it: of the examples
that there must be, those that came before are left out. -/
theorem ofPattern_judged (s : DedupSettings) (past rest : List (ι × Embedding))
    (hsimilar : (past ++ rest).Pairwise fun x y =>
      Embedding.similar s.threshold x.2 y.2 = true ↔ x.1 = y.1) (p : ι) :
    ofPattern p (rest.map Prod.fst) (judged s (past.map Prod.snd) (rest.map Prod.snd)) =
      acceptedFirst (s.minExamples.toNat - (past.map Prod.fst).count p)
        ((rest.map Prod.fst).count p) := by
  induction rest generalizing past with
  | nil => simp [ofPattern, acceptedFirst]
  | cons x rest ih =>
    have hassoc : past ++ x :: rest = (past ++ [x]) ++ rest := by simp
    have ih := ih (past ++ [x]) (hassoc ▸ hsimilar)
    have hcross := (List.pairwise_append.mp hsimilar).2.2
    have hfound : (past.map Prod.snd).countP (Embedding.similar s.threshold · x.2) =
        (past.map Prod.fst).count x.1 := by
      rw [List.count, List.countP_map, List.countP_map]
      refine List.countP_congr fun y hy => ?_
      have hiff := hcross y hy x List.mem_cons_self
      simpa using hiff
    have hdecision : decide s (past.map Prod.snd) x.2 =
        if s.minExamples.toNat - (past.map Prod.fst).count x.1 = 0 then .suppress else .accept := by
      rw [decide, hfound]
      exact if_congr Nat.sub_eq_zero_iff_le.symm rfl rfl
    rw [List.map_append, List.map_append, List.count_append, List.map_singleton,
      List.map_singleton, List.count_singleton] at ih
    rw [List.map_cons, List.map_cons, judged, ofPattern_cons, List.count_cons]
    by_cases hp : x.1 = p
    · subst hp
      rw [if_pos (beq_self_eq_true _)] at ih ⊢
      rw [if_pos rfl, acceptedFirst_succ, hdecision, Nat.sub_sub, ih]
    · have hother : ¬ (x.1 == p) = true := by simpa using hp
      rw [if_neg hother] at ih ⊢
      rw [if_neg hp]
      exact ih

/-- **The first occurrences**: where the embeddings of a stream in a span are of patterns, of each
pattern exactly as many are accepted as there must be examples, the first ones, and all others are
suppressed. -/
theorem first_occurrences (s : DedupSettings) (before span : List (TieBreak × Op))
    (stream : String) (patterns : List ι)
    (hspan : IsSpan stream ((empty s).after before) span)
    (hpatterns : Divides s.threshold patterns ((sightingsIn stream span).map Sighting.vector))
    (p : ι) :
    ofPattern p patterns (decisionsOn stream ((empty s).after before) span) =
      acceptedFirst s.minExamples.toNat (patterns.count p) := by
  have hbounded : ((empty s).after before).IsBounded := (isBounded_empty s).after before
  have hdecisions := hspan.decisionsOn_eq hbounded
  rw [settings_after] at hdecisions
  have hlength := hpatterns.length
  have hjudged := ofPattern_judged s []
    (patterns.zip ((sightingsIn stream span).map Sighting.vector)) hpatterns.similar p
  rw [List.map_fst_zip hlength.le, List.map_snd_zip hlength.ge] at hjudged
  rw [hdecisions]
  exact hjudged

namespace Interleaved

/-- Settings with room for two streams and six embeddings of each; there must be two examples. -/
def rules : DedupSettings := ⟨.one, 2, 6, 10, 2⟩

/-- What comes before: an embedding that is too old in the end, and another stream. -/
def before : List (TieBreak × Op) :=
  [(.first, .consider "a" [.one, .zero] 9), (.first, .consider "b" [.one] 20)]

/-- Two patterns by turns, with another stream that takes the place of the one before and a sweep;
the last embedding comes when the first one is as old as allowed. -/
def span : List (TieBreak × Op) :=
  [(.first, .consider "a" [.one, .zero] 20), (.first, .consider "a" [.zero, .one] 21),
    (.first, .consider "c" [.one] 21), (.first, .consider "a" [.one, .zero] 22),
    (.first, .consider "a" [.one, .zero] 25), (.first, .expire 30),
    (.first, .consider "a" [.zero, .one] 30), (.first, .consider "a" [.zero, .one] 30)]

/-- The patterns of the embeddings. -/
def patterns : List Bool := [true, false, true, true, false, false]

theorem isSpan : IsSpan "a" ((empty rules).after before) span where
  chronological := by decide
  keeps := by decide +kernel
  fits := by decide
  young := by decide
  fresh := by decide +kernel

theorem divides :
    Divides rules.threshold patterns ((sightingsIn "a" span).map Sighting.vector) where
  length := by decide
  similar := by decide +kernel

end Interleaved

open Interleaved in
/-- Of three embeddings of one pattern the third one is suppressed, also where those of another
pattern come in between. -/
theorem first_occurrences_interleaved :
    IsSpan "a" ((empty rules).after before) span ∧
      Divides rules.threshold patterns ((sightingsIn "a" span).map Sighting.vector) ∧
      ofPattern true patterns (decisionsOn "a" ((empty rules).after before) span) =
        [.accept, .accept, .suppress] := by
  have hfirst := first_occurrences rules before span "a" patterns isSpan divides true
  exact ⟨isSpan, divides, hfirst.trans (by decide)⟩

end Deduplicator

end LogIntake
