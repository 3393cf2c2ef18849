import LogIntake.Proofs.Dedup.Steady

/-!
# Bounds of a deduplicator

A deduplicator is **bounded**: it has one window for each of at most as many streams as allowed,
and no window holds more embeddings than allowed (`IsBounded`). Whatever the clock shows, also when
it stands still or goes back, every operation keeps this.

What an operation leaves alone is said with it. A decision changes the window of its own stream,
and forgets one stream if there is no room for it, one of those that were seen longest ago; all
other windows stay as they were (`Considered`). A sweep takes away what is too old, and the streams
that it leaves with nothing (`Swept`). `bounds_and_frame` puts both together for all operations in
all scripts.
-/

namespace LogIntake

namespace Window

theorem length_keepLast {α : Type} (n : Nat) (xs : List α) :
    (keepLast n xs).length = min n xs.length := by
  rw [keepLast, List.length_drop]
  omega

theorem size_push_le (w : Window) (v : Embedding) (now maxEntries : Nat) :
    (w.push v now maxEntries).size ≤ max maxEntries 1 := by
  rw [size, push, length_keepLast]
  exact Nat.min_le_left _ _

/-- At least the embedding that has just come is kept. -/
theorem getLast?_push (w : Window) (v : Embedding) (now maxEntries : Nat) :
    (w.push v now maxEntries).sightings.getLast? = some ⟨v, now⟩ := by
  have hlength : (w.sightings ++ [(⟨v, now⟩ : Sighting)]).length = w.sightings.length + 1 :=
    List.length_append
  rw [push, keepLast, List.getLast?_drop, if_neg (by omega), List.getLast?_concat]

theorem size_expire_le (w : Window) (now maxAge : Nat) : (w.expire now maxAge).size ≤ w.size :=
  List.length_filter_le _ _

end Window

namespace Deduplicator

variable {d : Deduplicator} {windows room : List (String × Window)} {stream other : String}
  {v : Embedding} {now cap : Nat}

/-! ### Look-up -/

theorem lookup_eq_none_iff : windows.lookup stream = none ↔ stream ∉ streams windows := by
  rw [← isSome_lookup, Bool.not_eq_true, Option.isSome_eq_false_iff, Option.isNone_iff_eq_none]

/-- A stream that was forgotten has no window, and the others have theirs. -/
theorem lookup_forget (hnodup : (streams windows).Nodup) (stream other : String) :
    (forget windows stream).lookup other =
      if other = stream then none else windows.lookup other := by
  have hstreams := streams_forget windows stream
  have hrest : (streams (forget windows stream)).Nodup := by
    rw [hstreams]
    exact hnodup.erase _
  split
  · rename_i heq
    subst heq
    rw [lookup_eq_none_iff, hstreams]
    exact hnodup.not_mem_erase
  · rename_i hne
    refine Option.ext fun w => ?_
    rw [lookup_eq_some_iff_mem hrest, lookup_eq_some_iff_mem hnodup]
    refine ⟨fun hmem => List.eraseP_subset hmem, fun hmem => ?_⟩
    exact (List.mem_eraseP_of_neg (by simpa using hne)).mpr hmem

/-- How the windows of other streams are found where room was made for a stream: all of them if it
had a window or if there was room, and all but one otherwise. -/
inductive Spared (cap : Nat) (windows : List (String × Window)) (stream : String)
    (room : List (String × Window)) : Prop where
  | all (h : stream ∈ streams windows ∨ windows.length < cap)
    (hsame : ∀ other, room.lookup other = windows.lookup other)
  | allBut {idlest : String} (h : stream ∉ streams windows) (hlength : windows.length = cap)
    (hidlest : IsIdlest windows idlest) (hnone : room.lookup idlest = none)
    (hsame : ∀ other, other ≠ idlest → room.lookup other = windows.lookup other)

theorem Room.spared (hroom : Room cap windows stream room) (hnodup : (streams windows).Nodup) :
    Spared cap windows stream room := by
  cases hroom with
  | known h => exact .all (.inl h) fun _ => rfl
  | free h hlength => exact .all (.inr hlength) fun _ => rfl
  | forgets h hlength hidlest =>
    refine .allBut h hlength hidlest ?_ fun other hne => ?_
    · rw [lookup_forget hnodup, if_pos rfl]
    · rw [lookup_forget hnodup, if_neg hne]

/-! ### Bounds -/

/-- Every stream has one window at most; neither the windows nor what they hold are more than
allowed, and one of each is always allowed. -/
structure IsBounded (d : Deduplicator) : Prop where
  nodup : (streams d.windows).Nodup
  count : d.streamCount ≤ max d.settings.maxStreams 1
  entries : ∀ p ∈ d.windows, p.2.size ≤ max d.settings.maxEntries 1

theorem isBounded_empty (s : DedupSettings) : (empty s).IsBounded :=
  ⟨.nil, Nat.zero_le _, nofun⟩

theorem IsBounded.considerBy (hd : d.IsBounded) (tie : TieBreak) (stream : String) (v : Embedding)
    (now : Nat) : (d.considerBy tie.choose stream v now).2.IsBounded := by
  have hroom := room d tie stream hd.count
  have hnodup := hroom.nodup hd.nodup
  refine ⟨nodup_put hnodup, hroom.length_put_le (by omega) hd.count, ?_⟩
  intro p hp
  rcases (mem_put hnodup).mp hp with rfl | ⟨hp, -⟩
  · exact Window.size_push_le _ _ _ _
  · exact hd.entries p (hroom.subset hp)

theorem IsBounded.expire (hd : d.IsBounded) (now : Nat) : (d.expire now).IsBounded := by
  have hsublist : (streams (d.expire now).windows).Sublist
      (streams d.windows) := by
    have hsublist := (List.filter_sublist (p := fun p : String × Window => !p.2.isEmpty)
      (l := d.windows.map fun p => (p.1, p.2.expire now d.settings.maxAge))).map Prod.fst
    rw [List.map_map] at hsublist
    exact hsublist
  have hlength := hsublist.length_le
  rw [streams, streams, List.length_map, List.length_map] at hlength
  refine ⟨hd.nodup.sublist hsublist, Nat.le_trans hlength hd.count, ?_⟩
  intro p hp
  obtain ⟨q, hq, rfl⟩ := List.mem_map.mp (List.mem_filter.mp hp).1
  exact Nat.le_trans (Window.size_expire_le _ _ _) (hd.entries q hq)

/-- Every operation keeps the bounds. -/
theorem IsBounded.apply (hd : d.IsBounded) (tie : TieBreak) (op : Op) :
    (d.apply tie op).2.IsBounded := by
  cases op with
  | consider stream v now => exact hd.considerBy tie stream v now
  | expire now => exact hd.expire now

/-- The deduplicator after a script. -/
def after (d : Deduplicator) (script : List (TieBreak × Op)) : Deduplicator :=
  script.foldl (fun d step => (d.apply step.1 step.2).2) d

theorem IsBounded.after (hd : d.IsBounded) (script : List (TieBreak × Op)) :
    (d.after script).IsBounded := by
  induction script generalizing d with
  | nil => exact hd
  | cons step rest ih => exact ih (hd.apply step.1 step.2)

/-! ### What stays -/

/-- How a deduplicator changes by a decision on an embedding of a stream. -/
structure Considered (d : Deduplicator) (stream : String) (v : Embedding) (now : Nat)
    (d' : Deduplicator) : Prop where
  settings : d'.settings = d.settings
  /-- The stream has a window, and what has just come is the newest in it. -/
  newest : ∃ w, d'.window? stream = some w ∧ w.sightings.getLast? = some ⟨v, now⟩ ∧
    w.lastSeen = now
  /-- If it had one before, or if there was room for one, nothing is forgotten, and all other
  windows stay as they were. -/
  spared : (d.window? stream).isSome ∨ d.streamCount < max d.settings.maxStreams 1 →
    ∀ other, other ≠ stream → d'.window? other = d.window? other
  /-- Otherwise one stream is forgotten, of those that were seen longest ago, and all other windows
  stay as they were. -/
  forgets : d.window? stream = none → max d.settings.maxStreams 1 ≤ d.streamCount →
    ∃ idlest w, d.window? idlest = some w ∧
      (∀ other w', d.window? other = some w' → w.lastSeen ≤ w'.lastSeen) ∧
      d'.window? idlest = none ∧
      ∀ other, other ≠ stream → other ≠ idlest → d'.window? other = d.window? other

theorem IsBounded.considered (hd : d.IsBounded) (tie : TieBreak) (stream : String) (v : Embedding)
    (now : Nat) : Considered d stream v now (d.considerBy tie.choose stream v now).2 := by
  have hroom := room d tie stream hd.count
  have hspared := hroom.spared hd.nodup
  -- Beside the window of the stream itself all windows are found where room was made.
  have hother : ∀ other, other ≠ stream →
      (d.considerBy tie.choose stream v now).2.window? other =
        (if (d.window? stream).isSome then d.windows else d.makeRoom tie.choose).lookup other :=
    fun other hne => (lookup_put _ _ _ _).trans (if_neg hne)
  refine ⟨rfl, ⟨_, (lookup_put _ _ _ _).trans (if_pos rfl), Window.getLast?_push _ _ _ _, rfl⟩,
    fun hspare other hne => ?_, fun hnew hfull => ?_⟩
  · cases hspared with
    | all _ hsame => exact (hother other hne).trans (hsame other)
    | allBut hunknown hlength _ _ _ =>
      rw [window?, isSome_lookup] at hspare
      have hlt : d.windows.length < max d.settings.maxStreams 1 := hspare.resolve_left hunknown
      omega
  · cases hspared with
    | all hroomy _ =>
      have hunknown : stream ∉ streams d.windows := lookup_eq_none_iff.mp hnew
      have hlt := hroomy.resolve_left hunknown
      exact absurd hfull (Nat.not_le.mpr hlt)
    | @allBut idlest hunknown _ hidlest hnone hsame =>
      obtain ⟨w, hw, hle⟩ := hidlest
      have hne : idlest ≠ stream := by
        rintro rfl
        exact hunknown (mem_streams.mpr ⟨w, hw⟩)
      refine ⟨idlest, w, (lookup_eq_some_iff_mem hd.nodup).mpr hw, fun other w' hw' => ?_,
        (hother idlest hne).trans hnone, fun other hstream hidle => ?_⟩
      · exact hle _ (mem_of_lookup hw')
      · exact (hother other hstream).trans (hsame other hidle)

/-- How a deduplicator changes by a sweep: what is too old is dropped, and so are the streams that
have nothing else. -/
structure Swept (d : Deduplicator) (now : Nat) (d' : Deduplicator) : Prop where
  settings : d'.settings = d.settings
  window : ∀ stream, d'.window? stream = (d.window? stream).bind fun w =>
    let young := w.sightings.filter fun x => now - x.time ≤ d.settings.maxAge
    if young = [] then none else some ⟨young, w.lastSeen⟩

theorem IsBounded.swept (hd : d.IsBounded) (now : Nat) : Swept d now (d.expire now) := by
  have hnodup := (hd.expire now).nodup
  refine ⟨rfl, fun stream => Option.ext fun u => ?_⟩
  rw [window?, lookup_eq_some_iff_mem hnodup, Option.bind_eq_some_iff]
  constructor
  · intro hu
    obtain ⟨hu, hfilled⟩ := List.mem_filter.mp hu
    obtain ⟨⟨s, w⟩, hw, heq⟩ := List.mem_map.mp hu
    cases heq
    refine ⟨w, (lookup_eq_some_iff_mem hd.nodup).mpr hw, if_neg ?_⟩
    simpa [Window.expire, Window.isEmpty] using hfilled
  · rintro ⟨w, hw, hu⟩
    have hmem := (lookup_eq_some_iff_mem hd.nodup).mp hw
    dsimp only at hu
    split at hu
    · cases hu
    · rename_i hfilled
      obtain rfl := Option.some.inj hu
      refine List.mem_filter.mpr ⟨List.mem_map_of_mem hmem, ?_⟩
      simpa [Window.expire, Window.isEmpty] using hfilled

/-- How a deduplicator changes by an operation. -/
def Changes (d : Deduplicator) : Op → Deduplicator → Prop
  | .consider stream v now, d' => Considered d stream v now d'
  | .expire now, d' => Swept d now d'

theorem IsBounded.changes (hd : d.IsBounded) (tie : TieBreak) (op : Op) :
    d.Changes op (d.apply tie op).2 := by
  cases op with
  | consider stream v now => exact hd.considered tie stream v now
  | expire now => exact hd.swept now

theorem settings_apply (d : Deduplicator) (tie : TieBreak) (op : Op) :
    (d.apply tie op).2.settings = d.settings := by
  cases op <;> rfl

theorem settings_after (d : Deduplicator) (script : List (TieBreak × Op)) :
    (d.after script).settings = d.settings := by
  induction script generalizing d with
  | nil => rfl
  | cons step rest ih => exact (ih _).trans (d.settings_apply step.1 step.2)

/-- **Bounds and frame of every operation**, in every script, whatever the times are. -/
theorem bounds_and_frame (s : DedupSettings) (script : List (TieBreak × Op)) (tie : TieBreak)
    (op : Op) :
    let d := (empty s).after script
    let d' := (d.apply tie op).2
    d'.IsBounded ∧ d'.settings = s ∧ d.Changes op d' := by
  intro d d'
  have hd : d.IsBounded := (isBounded_empty s).after script
  have hsettings : d'.settings = s := (d.settings_apply tie op).trans (settings_after _ script)
  exact ⟨hd.apply tie op, hsettings, hd.changes tie op⟩

end Deduplicator

end LogIntake
