import LogIntake.Proofs.Dedup.History
import LogIntake.Proofs.Dedup.Windows

/-!
# Windows and history

The windows of a deduplicator **reflect** its history: what each of them holds is what the stream
recalls, apart from what is too old, and of the streams seen lately those have a window whose gap
is small enough (`Reflects`). Sweeping away what is too old keeps this (`Reflects.expire`), as a
stream that loses its window was not seen lately, and so does a decision (`Reflects.considerBy`),
however room is made: a stream that was seen lately is forgotten just when its gap has become too
large (`Reflects.mem_room_iff`).

So all decisions are those that the history gives (`Deduplicator.decisions_eq`).
-/

namespace LogIntake

namespace Deduplicator

/-- What the windows of a deduplicator have to do with a history, at a time and later. -/
structure Reflects (s : DedupSettings) (windows : List (String × Window)) (h : History)
    (now : Nat) : Prop where
  before : h.Before now
  nodup : (streams windows).Nodup
  length : windows.length ≤ max s.maxStreams 1
  lastSeen : ∀ p ∈ windows, h.lastSeen? p.1 = some p.2.lastSeen
  tracked : ∀ stream, h.IsFresh s.maxAge now stream →
    (stream ∈ streams windows ↔ (h.gap stream).card < max s.maxStreams 1)
  view : ∀ p ∈ windows, ∀ t, now ≤ t →
    (p.2.expire t s.maxAge).sightings = (h.recent s p.1 t).reverse

variable {s : DedupSettings} {windows room : List (String × Window)} {h : History}
  {stream other : String} {v : Embedding} {now now' : Nat}

theorem reflects_empty (s : DedupSettings) : Reflects s [] [] 0 where
  before := ⟨.nil, nofun⟩
  nodup := .nil
  length := Nat.zero_le _
  lastSeen := nofun
  tracked stream hfresh := by
    obtain ⟨t, ht, -⟩ := hfresh
    cases ht
  view := nofun

/-! ### Streams seen lately -/

/-- What was seen since a stream that has a window and was seen lately has a window too. -/
theorem Reflects.gap_subset (hr : Reflects s windows h now)
    (hfresh : h.IsFresh s.maxAge now other)
    (hgap : (h.gap other).card < max s.maxStreams 1) :
    h.gap other ⊆ (streams windows).toFinset := by
  intro x hx
  obtain ⟨t, ht, -⟩ := id hfresh
  rw [List.mem_toFinset, hr.tracked x (hfresh.of_mem_gap hr.before hx)]
  exact Nat.lt_trans (hr.before.card_gap_lt ht hx) hgap

theorem Reflects.card_streams (hr : Reflects s windows h now) :
    (streams windows).toFinset.card = windows.length := by
  rw [List.toFinset_card_of_nodup hr.nodup, streams, List.length_map]

/-- A stream, its gap and one more stream need as many windows. -/
theorem Reflects.card_gap_add_two_le (hr : Reflects s windows h now)
    (hfresh : h.IsFresh s.maxAge now other) (hother : other ∈ streams windows)
    (hstream : stream ∈ streams windows) (hne : stream ≠ other) (hnew : stream ∉ h.gap other) :
    (h.gap other).card + 2 ≤ windows.length := by
  have hsubset := hr.gap_subset hfresh ((hr.tracked other hfresh).mp hother)
  have hcard : (insert stream (insert other (h.gap other))).card = (h.gap other).card + 2 := by
    rw [Finset.card_insert_of_notMem, Finset.card_insert_of_notMem (h.not_mem_gap other)]
    rw [Finset.mem_insert, not_or]
    exact ⟨hne, hnew⟩
  rw [← hcard, ← hr.card_streams]
  refine Finset.card_le_card (Finset.insert_subset (List.mem_toFinset.mpr hstream) ?_)
  exact Finset.insert_subset (List.mem_toFinset.mpr hother) hsubset

theorem Reflects.card_gap_add_one_le (hr : Reflects s windows h now)
    (hfresh : h.IsFresh s.maxAge now other) (hother : other ∈ streams windows) :
    (h.gap other).card + 1 ≤ windows.length := by
  have hsubset := hr.gap_subset hfresh ((hr.tracked other hfresh).mp hother)
  rw [← Finset.card_insert_of_notMem (h.not_mem_gap other), ← hr.card_streams]
  exact Finset.card_le_card (Finset.insert_subset (List.mem_toFinset.mpr hother) hsubset)

/-- What was seen longest ago is in no gap of a stream that has a window. -/
theorem Reflects.idlest_not_mem_gap (hr : Reflects s windows h now) {idlest : String}
    (hidlest : IsIdlest windows idlest) (hother : other ∈ streams windows) :
    idlest ∉ h.gap other := by
  obtain ⟨w, hw, hle⟩ := hidlest
  obtain ⟨w', hw'⟩ := mem_streams.mp hother
  intro hmem
  obtain ⟨t, ht, hlt⟩ := (hr.before.mem_gap_iff (hr.lastSeen _ hw')).mp hmem
  rw [hr.lastSeen _ hw] at ht
  have hseen := hle _ hw'
  obtain rfl := Option.some.inj ht
  exact absurd hlt (Nat.not_lt.mpr hseen)

/-- All other streams that have a window are in the gap of the one seen longest ago. -/
theorem Reflects.length_le_gap_idlest (hr : Reflects s windows h now) {idlest : String}
    (hidlest : IsIdlest windows idlest) : windows.length ≤ (h.gap idlest).card + 1 := by
  obtain ⟨w, hw, hle⟩ := hidlest
  rw [← hr.card_streams, ← Finset.card_insert_of_notMem (h.not_mem_gap idlest)]
  refine Finset.card_le_card fun x hx => ?_
  obtain ⟨w', hw'⟩ := mem_streams.mp (List.mem_toFinset.mp hx)
  rw [Finset.mem_insert]
  by_contra hnot
  rw [not_or] at hnot
  have hlast := hr.lastSeen _ hw
  have hlast' := hr.lastSeen _ hw'
  refine hnot.2 ((hr.before.mem_gap_iff hlast).mpr ⟨_, hlast', ?_⟩)
  refine Nat.lt_of_le_of_ne (hle _ hw') fun heq => hnot.1 ?_
  exact hr.before.eq_of_lastSeen? hlast' (heq ▸ hlast)

/-- **Who keeps a window when room is made for a stream**: of the streams seen lately, those
whose gap is small enough also with that stream in it. -/
theorem Reflects.mem_room_iff (hr : Reflects s windows h now)
    (hroom : Room (max s.maxStreams 1) windows stream room) (hne : stream ≠ other)
    (hfresh : h.IsFresh s.maxAge now other) :
    other ∈ streams room ↔ (insert stream (h.gap other)).card < max s.maxStreams 1 := by
  have hlength := hr.length
  have htracked := hr.tracked other hfresh
  have hle : (h.gap other).card ≤ (insert stream (h.gap other)).card :=
    Finset.card_le_card (Finset.subset_insert _ _)
  have hge := Finset.card_insert_le stream (h.gap other)
  -- In each case the gap and the streams beside it have windows, of which there are not enough
  -- for the gap to be as large as allowed.
  cases hroom with
  | known hstream =>
    refine ⟨fun hother => ?_, fun hcard => htracked.mpr (Nat.lt_of_le_of_lt hle hcard)⟩
    by_cases hmem : stream ∈ h.gap other
    · rw [Finset.insert_eq_of_mem hmem]
      exact htracked.mp hother
    · have htwo := hr.card_gap_add_two_le hfresh hother hstream hne hmem
      omega
  | free hstream hlength =>
    refine ⟨fun hother => ?_, fun hcard => htracked.mpr (Nat.lt_of_le_of_lt hle hcard)⟩
    have hone := hr.card_gap_add_one_le hfresh hother
    omega
  | @forgets idlest hstream hlength hidlest =>
    rw [streams_forget, hr.nodup.mem_erase_iff]
    constructor
    · rintro ⟨hidle, hother⟩
      have htwo := hr.card_gap_add_two_le hfresh hother hidlest.mem_streams (Ne.symm hidle)
        (hr.idlest_not_mem_gap hidlest hother)
      omega
    · intro hcard
      have hgap := Nat.lt_of_le_of_lt hle hcard
      refine ⟨?_, htracked.mpr hgap⟩
      rintro rfl
      -- The stream is not in the gap, as it has no window, so it makes the gap too large.
      have hnew : stream ∉ h.gap other := fun hmem =>
        hstream (List.mem_toFinset.mp (hr.gap_subset hfresh hgap hmem))
      rw [Finset.card_insert_of_notMem hnew] at hcard
      have hfull := hr.length_le_gap_idlest hidlest
      omega

/-! ### What a window shows -/

/-- Of a stream that was not seen lately nothing counts any more. -/
theorem recent_eq_nil (hb : h.Before now) (hold : ¬ h.IsFresh s.maxAge now stream)
    (ht : now ≤ now') : h.recent s stream now' = [] := by
  rw [History.recent, hb.recalled_too_old hold ht, List.take_nil]

/-- The window that a decision looks at holds what the history gives. -/
theorem Reflects.window_eq (hr : Reflects s windows h now)
    (hroom : Room (max s.maxStreams 1) windows stream room) (ht : now ≤ now') :
    (((room.lookup stream).getD (.empty now')).expire now' s.maxAge).sightings =
      (h.recent s stream now').reverse := by
  by_cases hmem : stream ∈ streams room
  · obtain ⟨w, hw⟩ := mem_streams.mp hmem
    rw [(lookup_eq_some_iff_mem (hroom.nodup hr.nodup)).mpr hw, Option.getD_some]
    exact hr.view _ (hroom.subset hw) now' ht
  · have hnone : room.lookup stream = none := by
      rw [← Option.not_isSome_iff_eq_none, isSome_lookup]
      exact hmem
    have hnil : h.recent s stream now' = [] := by
      by_cases hfresh : h.IsFresh s.maxAge now stream
      · rw [hroom.mem_streams, hr.tracked stream hfresh, Nat.not_lt] at hmem
        rw [History.recent, History.recalled_eq_nil (by omega) hmem, List.filter_nil, List.take_nil]
      · exact recent_eq_nil hr.before hfresh ht
    rw [hnone, hnil]
    rfl

/-! ### Sweeps -/

/-- What is too old at a time is so later. -/
theorem filter_age_filter_age (xs : List Sighting) (maxAge : Nat) {t : Nat} (ht : now ≤ t) :
    (xs.filter fun x => now - x.time ≤ maxAge).filter (fun x => t - x.time ≤ maxAge) =
      xs.filter fun x => t - x.time ≤ maxAge := by
  rw [List.filter_filter]
  refine List.filter_congr fun x _ => ?_
  rw [Bool.and_eq_left_iff_imp]
  simp only [decide_eq_true_eq]
  omega

/-- A stream that was seen lately and recalls something has something to show. -/
theorem recent_ne_nil (hfresh : h.IsFresh s.maxAge now stream)
    (hgap : (h.gap stream).card < max s.maxStreams 1) : h.recent s stream now ≠ [] := by
  obtain ⟨t, ht, hage⟩ := hfresh
  obtain ⟨x, hx, rfl⟩ := History.exists_mem_recalled (by omega) ht hgap
  have hmem : x ∈ (h.recalled (max s.maxStreams 1) stream ∅).filter
      fun x => now - x.time ≤ s.maxAge := List.mem_filter.mpr ⟨hx, decide_eq_true hage⟩
  rw [History.recent, Ne, List.take_eq_nil_iff, not_or]
  exact ⟨by omega, List.ne_nil_of_mem hmem⟩

theorem Reflects.expire (hr : Reflects s windows h now) (ht : now ≤ now') :
    Reflects s ((windows.map fun p => (p.1, p.2.expire now' s.maxAge)).filter
      fun p => !p.2.isEmpty) h now' where
  before := hr.before.mono ht
  nodup := by
    have hsublist := (List.filter_sublist (p := fun p : String × Window => !p.2.isEmpty)
      (l := windows.map fun p => (p.1, p.2.expire now' s.maxAge))).map Prod.fst
    rw [List.map_map] at hsublist
    exact hr.nodup.sublist hsublist
  length := by
    refine Nat.le_trans (List.length_filter_le _ _) ?_
    rw [List.length_map]
    exact hr.length
  lastSeen p hp := by
    obtain ⟨q, hq, rfl⟩ := List.mem_map.mp (List.mem_filter.mp hp).1
    exact hr.lastSeen q hq
  tracked stream hfresh := by
    have htracked := hr.tracked stream (hfresh.mono ht)
    rw [← htracked]
    constructor
    · intro hmem
      obtain ⟨w, hw⟩ := mem_streams.mp hmem
      obtain ⟨q, hq, heq⟩ := List.mem_map.mp (List.mem_filter.mp hw).1
      cases heq
      exact mem_streams.mpr ⟨q.2, hq⟩
    · intro hmem
      -- The window is not swept away, as it still shows what came last.
      obtain ⟨w, hw⟩ := mem_streams.mp hmem
      have hne := recent_ne_nil hfresh (htracked.mp hmem)
      rw [← List.reverse_ne_nil_iff, ← hr.view _ hw now' ht] at hne
      refine mem_streams.mpr ⟨_, List.mem_filter.mpr ⟨List.mem_map_of_mem hw, ?_⟩⟩
      simpa [Window.isEmpty] using hne
  view p hp t hle := by
    obtain ⟨q, hq, rfl⟩ := List.mem_map.mp (List.mem_filter.mp hp).1
    have hview := hr.view q hq t (Nat.le_trans ht hle)
    rw [Window.expire] at hview ⊢
    exact (filter_age_filter_age _ _ hle).trans hview

/-! ### Decisions -/

theorem keepLast_reverse {α : Type} (n : Nat) (xs : List α) :
    Window.keepLast n xs.reverse = (xs.take n).reverse := by
  rw [Window.keepLast, List.length_reverse, List.drop_reverse]
  rcases Nat.le_total xs.length n with hle | hle
  · rw [Nat.sub_eq_zero_of_le hle, Nat.sub_zero, List.take_length, List.take_of_length_le hle]
  · rw [Nat.sub_sub_self hle]

/-- Where all that passes a test comes first, the first ones that pass are found among the
first ones. -/
theorem filter_take {α : Type} {p : α → Bool} {xs : List α}
    (hxs : xs.Pairwise fun x y => p y = true → p x = true) (n : Nat) :
    (xs.take n).filter p = (xs.filter p).take n := by
  induction xs generalizing n with
  | nil => simp
  | cons x xs ih =>
    obtain ⟨hx, hrest⟩ := List.pairwise_cons.mp hxs
    cases n with
    | zero => simp
    | succ n =>
      by_cases hp : p x = true
      · rw [List.take_succ_cons, List.filter_cons_of_pos hp, List.filter_cons_of_pos hp,
          List.take_succ_cons, ih hrest]
      · have hnone : ∀ y ∈ xs, ¬ p y = true := fun y hy hpy => hp (hx y hy hpy)
        rw [List.take_succ_cons, List.filter_cons_of_neg hp, List.filter_cons_of_neg hp,
          List.filter_eq_nil_iff.mpr hnone, List.take_nil,
          List.filter_eq_nil_iff.mpr fun y hy => hnone y (List.mem_of_mem_take hy)]

/-- The window with one more embedding shows what the stream recalls now. -/
theorem recent_cons (hb : History.Before (⟨stream, v, now⟩ :: h) now) {t : Nat} (ht : now ≤ t) :
    (Window.keepLast (max s.maxEntries 1) ((h.recent s stream now).reverse ++ [⟨v, now⟩])).filter
        (fun x => t - x.time ≤ s.maxAge) =
      (History.recent s (⟨stream, v, now⟩ :: h) stream t).reverse := by
  have hcap : 0 < max s.maxStreams 1 := by omega
  obtain ⟨n, hn⟩ : ∃ n, max s.maxEntries 1 = n + 1 := ⟨max s.maxEntries 1 - 1, by omega⟩
  have hrecall : History.recalled (max s.maxStreams 1) stream ∅ (⟨stream, v, now⟩ :: h) =
      ⟨v, now⟩ :: h.recalled (max s.maxStreams 1) stream ∅ := History.recalled_of_eq hcap rfl h
  have hpairwise := hb.recalled_pairwise (max s.maxStreams 1) stream ∅
  rw [hrecall] at hpairwise
  rw [History.recent, History.recent, hrecall]
  generalize h.recalled (max s.maxStreams 1) stream ∅ = xs at hpairwise ⊢
  -- Of the list that came now only the latest part is kept, at once or later.
  have hnow : (⟨v, now⟩ : Sighting) :: xs.filter (fun x => now - x.time ≤ s.maxAge) =
      (⟨v, now⟩ :: xs).filter fun x => now - x.time ≤ s.maxAge := by
    rw [List.filter_cons_of_pos (by simp)]
  have htake : ((⟨v, now⟩ : Sighting) ::
      (xs.filter fun x => now - x.time ≤ s.maxAge).take (n + 1)).take (n + 1) =
        ((⟨v, now⟩ :: xs).filter fun x => now - x.time ≤ s.maxAge).take (n + 1) := by
    rw [← hnow, List.take_succ_cons, List.take_succ_cons, List.take_take,
      Nat.min_eq_left (Nat.le_succ n)]
  rw [hn, ← List.reverse_cons, keepLast_reverse, List.filter_reverse, htake]
  congr 1
  rw [filter_take, filter_age_filter_age _ _ ht]
  refine (hpairwise.sublist List.filter_sublist).imp fun hlt hage => ?_
  simp only [decide_eq_true_eq] at hage ⊢
  omega

/-- A decision keeps windows and history together. -/
theorem Reflects.put (hr : Reflects s windows h now)
    (hroom : Room (max s.maxStreams 1) windows stream room) (ht : now ≤ now')
    (hlt : ∀ x ∈ h, x.sighting.time < now') {w : Window}
    (hw : w.sightings = (h.recent s stream now').reverse) :
    Reflects s (put room stream (w.push v now' s.maxEntries)) (⟨stream, v, now'⟩ :: h) now' := by
  have hcap : 0 < max s.maxStreams 1 := by omega
  have hnodup := hroom.nodup hr.nodup
  have hb : History.Before (⟨stream, v, now'⟩ :: h) now' :=
    ⟨List.pairwise_cons.mpr ⟨hlt, hr.before.pairwise⟩,
      List.forall_mem_cons.mpr ⟨Nat.le_refl _, fun x hx => Nat.le_of_lt (hlt x hx)⟩⟩
  have hfresh : ∀ {other}, stream ≠ other →
      (History.IsFresh (⟨stream, v, now'⟩ :: h) s.maxAge now' other ↔
        h.IsFresh s.maxAge now' other) := by
    intro other hne
    rw [History.IsFresh, History.IsFresh, History.lastSeen?_of_ne hne]
  refine ⟨hb, nodup_put hnodup, hroom.length_put_le hcap hr.length, ?_, ?_, ?_⟩
  · intro p hp
    rcases (mem_put hnodup).mp hp with rfl | ⟨hp, hne⟩
    · exact History.lastSeen?_of_eq rfl
    · rw [History.lastSeen?_of_ne (Ne.symm hne)]
      exact hr.lastSeen p (hroom.subset hp)
  · intro other hother
    rw [mem_streams_put]
    by_cases hne : stream = other
    · rw [History.gap_of_eq hne, Finset.card_empty]
      exact iff_of_true (.inl hne.symm) hcap
    · rw [History.gap_of_ne hne, or_iff_right (Ne.symm hne)]
      exact hr.mem_room_iff hroom hne (((hfresh hne).mp hother).mono ht)
  · intro p hp t hle
    rcases (mem_put hnodup).mp hp with rfl | ⟨hp, hne⟩
    · rw [Window.push, Window.expire, hw]
      exact recent_cons hb hle
    · have hview := hr.view p (hroom.subset hp) t (Nat.le_trans ht hle)
      rw [hview]
      congr 1
      -- A stream seen lately that keeps its window goes on recalling; of another one nothing
      -- counts, before and after.
      by_cases hlately : h.IsFresh s.maxAge now' p.1
      · have hgap := (hr.mem_room_iff hroom (Ne.symm hne) (hlately.mono ht)).mp
          (mem_streams.mpr ⟨p.2, hp⟩)
        rw [← History.gap_of_ne (x := ⟨stream, v, now'⟩) (Ne.symm hne)] at hgap
        rw [History.recent, History.recent, History.recalled_of_ne hcap (Ne.symm hne) hgap]
      · rw [recent_eq_nil (hr.before.mono ht) hlately hle,
          recent_eq_nil hb (fun hlately' => hlately ((hfresh (Ne.symm hne)).mp hlately')) hle]

variable {d : Deduplicator}

/-- A decision is the one that the history gives, and goes into it. -/
theorem Reflects.considerBy (hr : Reflects d.settings d.windows h now) (tie : TieBreak)
    (stream : String) (v : Embedding) (ht : now ≤ now')
    (hlt : ∀ x ∈ h, x.sighting.time < now') :
    (d.considerBy tie.choose stream v now').1 = h.decision d.settings stream v now' ∧
      Reflects d.settings (d.considerBy tie.choose stream v now').2.windows
        (⟨stream, v, now'⟩ :: h) now' := by
  have hroom := room d tie stream hr.length
  have hwindow := hr.window_eq hroom ht
  refine ⟨?_, hr.put hroom ht hlt hwindow⟩
  have hsimilar := congrArg
    (List.countP fun x => Embedding.similar d.settings.threshold x.vector v) hwindow
  rw [List.countP_reverse, ← Window.similarTo] at hsimilar
  simp only [Deduplicator.considerBy, History.decision, hsimilar]

theorem Reflects.outcomes (hr : Reflects d.settings d.windows h now)
    (script : List (TieBreak × Op)) (hchron : Chronological (script.map Prod.snd))
    (hlater : ∀ op ∈ script.map Prod.snd, now ≤ op.now ∧
      (op.isConsider = true → ∀ x ∈ h, x.sighting.time < op.now)) :
    (d.outcomes script).map Prod.fst = h.decisions d.settings (script.map Prod.snd) := by
  induction script generalizing d h now with
  | nil => rfl
  | cons step rest ih =>
    obtain ⟨tie, op⟩ := step
    obtain ⟨hfirst, hrest⟩ := List.pairwise_cons.mp hchron
    obtain ⟨ht, hlt⟩ := hlater op List.mem_cons_self
    have hpast : ∀ op' ∈ rest.map Prod.snd, ∀ x ∈ h, op'.isConsider = true →
        x.sighting.time < op'.now := fun op' hop x hx hdecides =>
      (hlater op' (List.mem_cons_of_mem _ hop)).2 hdecides x hx
    cases op with
    | consider stream v now' =>
      obtain ⟨hdecision, hnext⟩ := hr.considerBy tie stream v ht (hlt rfl)
      rw [Deduplicator.outcomes, List.map_cons, List.map_cons, History.decisions]
      refine congrArg₂ _ (congrArg some hdecision) (ih (d := _) hnext hrest fun op' hop => ?_)
      refine ⟨(hfirst op' hop).1, fun hdecides x hx => ?_⟩
      rcases List.mem_cons.mp hx with rfl | hx
      · exact (hfirst op' hop).2 rfl hdecides
      · exact hpast op' hop x hx hdecides
    | expire now' =>
      rw [Deduplicator.outcomes, List.map_cons, List.map_cons, History.decisions]
      refine congrArg₂ _ rfl (ih (d := d.expire now') (hr.expire ht) hrest fun op' hop => ?_)
      exact ⟨(hfirst op' hop).1, fun hdecides x hx => hpast op' hop x hx hdecides⟩

/-- **What a deduplicator decides is what its history gives**, in every script of operations in
the order of time. -/
theorem decisions_eq (s : DedupSettings) (script : List (TieBreak × Op))
    (hchron : Chronological (script.map Prod.snd)) :
    ((empty s).outcomes script).map Prod.fst = History.decisions s [] (script.map Prod.snd) :=
  Reflects.outcomes (d := empty s) (reflects_empty s) script hchron
    fun _ _ => ⟨Nat.zero_le _, nofun⟩

/-- Three streams, of which two may have a window, and a sweep in between. -/
theorem decisions_eq_three_streams :
    Chronological [.consider "a" [.one] 1, .consider "b" [.one] 2, .expire 2,
        .consider "c" [.one] 3, .expire 9, .consider "a" [.one] 10] ∧
      ((empty ⟨.one, 1, 2, 5, 2⟩).outcomes [(.first, .consider "a" [.one] 1),
        (.first, .consider "b" [.one] 2), (.first, .expire 2), (.first, .consider "c" [.one] 3),
        (.first, .expire 9), (.first, .consider "a" [.one] 10)]).map Prod.fst =
      History.decisions ⟨.one, 1, 2, 5, 2⟩ [] [.consider "a" [.one] 1, .consider "b" [.one] 2,
        .expire 2, .consider "c" [.one] 3, .expire 9, .consider "a" [.one] 10] := by
  have hchron : Chronological [.consider "a" [.one] 1, .consider "b" [.one] 2, .expire 2,
      .consider "c" [.one] 3, .expire 9, .consider "a" [.one] 10] := by
    simp [Chronological, Op.now, Op.isConsider]
  exact ⟨hchron, decisions_eq ⟨.one, 1, 2, 5, 2⟩ [(.first, .consider "a" [.one] 1),
    (.first, .consider "b" [.one] 2), (.first, .expire 2), (.first, .consider "c" [.one] 3),
    (.first, .expire 9), (.first, .consider "a" [.one] 10)] hchron⟩

end Deduplicator

end LogIntake
