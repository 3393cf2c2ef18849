import LogIntake.Proofs.Entry.Lines
import LogIntake.Proofs.Service.Requests

/-!
# The account of a request

A request is worked on in two passes: first the lines are rejected that hold no entry, then the
entries of the others are offered until one is refused. Both passes name the faults they find in
one list, which is cut off after a hundred faults and sorted in the end.

`Tally.found` is what such a list comes to: a tally is determined by the faults that were found,
in the order in which they were found (`Tally.reject_found`). `Course` says which entries are
offered and which are rejected without being offered, and `Tally.takeAll_course` that this is how
the second pass goes. `Desk.account` draws the conclusions for whole requests: every line counts
once, the answer is a JSON object whose errors name as many rejected lines as they may (`Errors`),
and its status follows from the lines and from what became of the first offer.

A pipeline refuses offers for want of room or because it is closed, and for nothing else, so
whoever offers entries to one is a `Desk` (`Schedule.desk`).
-/

namespace LogIntake

open Pipeline

namespace Service

/-! ### Offers -/

/-- Who takes entries in, and refuses them only for want of room or because no more are taken
in. -/
structure Desk (σ : Type) where
  offer : σ → Entry → Except Fault Unit × σ
  refuses : ∀ s e f, (offer s e).1 = .error f → f = .queueFull ∨ f = .closed

/-- How the entries of a request fare: they are offered one after the other and accepted, until
one is refused. The others are rejected for the same fault as that one, and not offered. -/
inductive Course {σ : Type} (offer : σ → Entry → Except Fault Unit × σ) : (s : σ) →
    (entries accepted : List (Nat × Entry)) → (refused : List (Nat × Fault)) → (s' : σ) → Prop
  | ends (s : σ) : Course offer s [] [] [] s
  | accepts {s s' : σ} {n : Nat} {e : Entry} {rest accepted : List (Nat × Entry)}
    {refused : List (Nat × Fault)} (h : (offer s e).1 = .ok ())
    (later : Course offer (offer s e).2 rest accepted refused s') :
    Course offer s ((n, e) :: rest) ((n, e) :: accepted) refused s'
  | refuses {s : σ} {n : Nat} {e : Entry} {f : Fault} (rest : List (Nat × Entry))
    (h : (offer s e).1 = .error f) :
    Course offer s ((n, e) :: rest) [] ((n, f) :: rest.map fun p => (p.1, f)) (offer s e).2

namespace Course

variable {σ : Type} {offer : σ → Entry → Except Fault Unit × σ} {s s' : σ}
  {entries accepted : List (Nat × Entry)} {refused : List (Nat × Fault)}

/-- The accepted entries are the first ones, and the others are refused. -/
theorem splits (h : Course offer s entries accepted refused s') : ∃ rest,
    entries = accepted ++ rest ∧ refused.map Prod.fst = rest.map Prod.fst := by
  induction h with
  | ends s => exact ⟨[], rfl, rfl⟩
  | accepts _ _ ih =>
    obtain ⟨rest, rfl, hrest⟩ := ih
    exact ⟨rest, rfl, hrest⟩
  | @refuses s n e f rest _ => exact ⟨(n, e) :: rest, rfl, by simp [Function.comp_def]⟩

/-- Every line is accepted or rejected. -/
theorem lines_perm {ls : List (Nat × Except Fault Entry)}
    (h : Course offer s (Reading.parsed ls) accepted refused s') :
    (accepted.map Prod.fst ++ (Reading.unparsable ls ++ refused).map Prod.fst).Perm
      (ls.map Prod.fst) := by
  obtain ⟨rest, hparsed, hrefused⟩ := h.splits
  have hlines := Reading.lines_perm ls
  rw [hparsed, List.map_append, List.append_assoc] at hlines
  rw [List.map_append, hrefused]
  exact (List.perm_append_comm.append_left _).trans hlines

/-- The others are all refused for one fault, which a desk may have. -/
theorem faults (d : Desk σ) (h : Course d.offer s entries accepted refused s') :
    ∀ p ∈ refused, p.2 = .queueFull ∨ p.2 = .closed := by
  induction h with
  | ends s => exact nofun
  | accepts _ _ ih => exact ih
  | refuses rest herror =>
    have hfault := d.refuses _ _ _ herror
    refine List.forall_mem_cons.mpr ⟨hfault, fun p hp => ?_⟩
    obtain ⟨q, -, rfl⟩ := List.mem_map.mp hp
    exact hfault

end Course

end Service

/-! ### The offers of a pipeline -/

namespace Pipeline

/-- An offer that, if it was refused, was so for want of room or because the pipeline is closed. -/
def Offer.IsPlain (o : Offer) : Prop :=
  ∀ f, o.state = .refused f → f = .queueFull ∨ f = .closed

namespace World

/-- No offer was refused for another reason. -/
def IsPlain (w : World) : Prop :=
  ∀ o ∈ w.offers, o.IsPlain

variable {w v : World}

theorem isPlain_of_forall₂ {l l' : List Offer}
    (h : List.Forall₂ (fun o o' => o.IsPlain → o'.IsPlain) l l') (hl : ∀ o ∈ l, o.IsPlain) :
    ∀ o ∈ l', o.IsPlain := by
  induction h with
  | nil => exact nofun
  | cons hp _ ih =>
    obtain ⟨ho, hl⟩ := List.forall_mem_cons.mp hl
    exact List.forall_mem_cons.mpr ⟨hp ho, ih hl⟩

theorem IsPlain.append (hw : w.IsPlain) {o : Offer} (ho : o.IsPlain) :
    ∀ p ∈ w.offers ++ [o], p.IsPlain := by
  intro p hp
  rcases List.mem_append.mp hp with hp | hp
  · exact hw p hp
  · exact List.mem_singleton.mp hp ▸ ho

theorem IsPlain.apply (hw : w.IsPlain) {a : Action} (h : w.apply a = some v) : v.IsPlain := by
  rcases apply_cases h with ⟨i, k, -, -, hworks⟩ | ⟨-, hoccurs⟩
  · have hrefused : ∀ o ∈ refuseWaiting i w.offers, o.IsPlain :=
      isPlain_of_forall₂ (forall₂_refuseWaiting (fun _ => id)
        fun _ _ _ _ hf => .inr (OfferState.refused.inj hf).symm) hw
    have hgranted : ∀ o ∈ grant i w.offers, o.IsPlain :=
      isPlain_of_forall₂ (forall₂_grant (fun _ => id) i fun _ _ _ _ _ hf => nomatch hf) hw
    cases hworks
    case leaves | breaks => exact hrefused
    case takes => exact hgranted
    all_goals exact hw
  · cases hoccurs with
    | turnsAway e => exact hw.append fun f hf => .inr (OfferState.refused.inj hf).symm
    | admits e | delays e => exact hw.append nofun
    | letsIn ho => exact isPlain_of_forall₂ (forall₂_set (fun _ => id) ho fun _ _ => nofun) hw
    | givesUp ho =>
      exact isPlain_of_forall₂ (forall₂_set (fun _ => id) ho
        fun _ _ hf => .inl (OfferState.refused.inj hf).symm) hw
    | closes | stops | passes => exact hw

theorem IsPlain.reaches (hw : w.IsPlain) (h : Reaches w v) : v.IsPlain := by
  induction h with
  | refl => exact hw
  | step a _ h ih => exact ih.apply h

end World

namespace Schedule

theorem isPlain_answer {w : World} (hw : w.IsPlain) {ticket : Nat} {f : Fault}
    (h : answer? w ticket = some (.error f)) : f = .queueFull ∨ f = .closed := by
  cases ho : w.offers[ticket]? with
  | none => simp [answer?, ho] at h
  | some o =>
    cases hstate : o.state with
    | waiting till granted | accepted n => simp [answer?, ho, hstate] at h
    | refused g =>
      simp only [answer?, ho, hstate, Option.some.injEq, Except.error.injEq] at h
      exact h ▸ hw o (List.mem_of_getElem? ho) g hstate

/-- A caller that is refused finds this in the offer, or is refused because the pipeline is
closed. -/
theorem answer?_of_error {s : Schedule} {e : Entry} {f : Fault} (h : (s.offer e).1 = .error f) :
    f = .closed ∨ ∃ ticket, answer? (s.offer e).2.world ticket = some (.error f) := by
  rw [offer] at h ⊢
  split at h
  · rw [if_pos ‹_›]
    rw [offerNow] at h ⊢
    generalize (if s.allowance = 0 then s.round else s) = s₁ at h ⊢
    dsimp only at h ⊢
    split at h
    · cases h
    · rename_i g s₂ hawait
      obtain ⟨w, -, hpoll⟩ := await_spec hawait
      exact .inr ⟨_, Except.error.inj h ▸ (pollOffer_spec hpoll).2⟩
    · exact .inl (Except.error.inj h).symm
  · exact .inl (Except.error.inj h).symm

theorem isPlain_offer {s : Schedule} (hs : s.world.IsPlain) (e : Entry) :
    (s.offer e).2.world.IsPlain ∧
      ∀ f, (s.offer e).1 = .error f → f = .queueFull ∨ f = .closed := by
  obtain ⟨w, hbefore, hafter, -⟩ := s.offer_spec e
  have hplain := ((hs.reaches hbefore).apply (a := .offer e) rfl).reaches hafter
  refine ⟨hplain, fun f hf => ?_⟩
  rcases answer?_of_error hf with hclosed | ⟨ticket, hanswer⟩
  · exact .inr hclosed
  · exact isPlain_answer hplain hanswer

/-- The schedules of a pipeline take entries in. -/
def desk : Service.Desk {s : Schedule // s.world.IsPlain} where
  offer s e := ((s.1.offer e).1, ⟨(s.1.offer e).2, (isPlain_offer s.2 e).1⟩)
  refuses s e := (isPlain_offer s.2 e).2

end Schedule

end Pipeline

namespace Service

/-! ### Faults that were found -/

namespace Tally

/-- The tally of a request in which some faults were found, one after the other. -/
def found (faults : List (Nat × Fault)) (accepted : Nat) (halted : Option Fault) : Tally where
  accepted
  rejected := faults.length
  halted
  rejections := (faults.take maxReported).map fun p => .of (some p.1) p.2
  events := (faults.map fun p => .recordRejected p.2.label).reverse

variable {faults : List (Nat × Fault)} {accepted : Nat} {halted : Option Fault}

theorem reject_found (n : Nat) (f : Fault) :
    (found faults accepted halted).reject (some n) f =
      found (faults ++ [(n, f)]) accepted halted := by
  have hnamed : (if (faults.take maxReported).length < maxReported
      then faults.take maxReported ++ [(n, f)] else faults.take maxReported) =
      (faults ++ [(n, f)]).take maxReported := by
    rw [List.take_append, List.length_take]
    split
    · rename_i hlt
      obtain ⟨k, hk⟩ : ∃ k, maxReported - faults.length = k + 1 :=
        ⟨maxReported - faults.length - 1, by omega⟩
      rw [hk, List.take_succ_cons, List.take_nil]
    · rename_i hge
      rw [show maxReported - faults.length = 0 by omega]
      simp
  simp only [reject, found, List.length_map, List.length_append, List.length_singleton,
    List.map_append, List.reverse_append, List.map_cons, List.map_nil, List.reverse_singleton,
    List.singleton_append, ← hnamed, Tally.mk.injEq, true_and, and_true]
  split <;> simp

/-- The first pass. -/
theorem foldl_reject_found (faults : List (Nat × Fault)) (accepted : Nat) (halted : Option Fault)
    {more : List (Nat × Fault)} (h : ∀ p ∈ more, p.2.line? = some p.1) :
    (more.map Prod.snd).foldl (fun t f => t.reject f.line? f) (found faults accepted halted) =
      found (faults ++ more) accepted halted := by
  induction more generalizing faults with
  | nil => rw [List.append_nil]; rfl
  | cons p more ih =>
    rw [List.map_cons, List.foldl_cons, h p List.mem_cons_self, reject_found,
      ih _ fun q hq => h q (List.mem_cons_of_mem _ hq), List.append_assoc]
    rfl

variable {σ : Type}

/-- Nothing is offered after a refusal. -/
theorem takeAll_found (offer : σ → Entry → Except Fault Unit × σ) (faults : List (Nat × Fault))
    (accepted : Nat) (f : Fault) (s : σ) (entries : List (Nat × Entry)) :
    takeAll offer (found faults accepted (some f)) s entries =
      (found (faults ++ entries.map fun p => (p.1, f)) accepted (some f), s) := by
  induction entries generalizing faults with
  | nil => rw [List.map_nil, List.append_nil]; rfl
  | cons p rest ih =>
    have htake : (found faults accepted (some f)).take offer s p.1 p.2 =
        (found (faults ++ [(p.1, f)]) accepted (some f), s) := by
      rw [take]
      exact Prod.ext (reject_found p.1 f) rfl
    rw [takeAll_cons, htake, ih, List.append_assoc]
    rfl

theorem haltOf_refused (d : Desk σ) {s : σ} {e : Entry} {f : Fault}
    (h : (d.offer s e).1 = .error f) : haltOf f = f := by
  rcases d.refuses s e f h with rfl | rfl <;> rfl

/-- The second pass. -/
theorem takeAll_course (d : Desk σ) (faults : List (Nat × Fault)) (accepted : Nat) (s : σ)
    (entries : List (Nat × Entry)) :
    ∃ taken refused s', Course d.offer s entries taken refused s' ∧
      takeAll d.offer (found faults accepted none) s entries =
        (found (faults ++ refused) (accepted + taken.length) (refused.head?.map Prod.snd), s') := by
  induction entries generalizing accepted s with
  | nil => exact ⟨[], [], s, .ends s, by rw [List.append_nil]; rfl⟩
  | cons p rest ih =>
    rw [takeAll_cons]
    cases hanswer : (d.offer s p.2).1 with
    | ok u =>
      obtain ⟨taken, refused, s', hcourse, heq⟩ := ih (accepted + 1) (d.offer s p.2).2
      refine ⟨p :: taken, refused, s', .accepts hanswer hcourse, ?_⟩
      rw [take_of_ok p.1 rfl hanswer]
      exact heq.trans (by rw [List.length_cons, Nat.add_assoc, Nat.add_comm 1])
    | error f =>
      refine ⟨[], _, _, .refuses rest hanswer, ?_⟩
      rw [take_of_error p.1 rfl hanswer, haltOf_refused d hanswer, reject_found]
      have htake := takeAll_found d.offer (faults ++ [(p.1, f)]) accepted f (d.offer s p.2).2 rest
      rw [List.append_assoc] at htake
      exact htake

end Tally

/-! ### Answers -/

/-- The word for an outcome. -/
def word : RequestOutcome → String
  | .accepted => "accepted"
  | .partly => "partial"
  | .closing => "shutting_down"
  | .backpressure => "backpressure"
  | .malformed => "malformed"

theorem label_eq_word (o : RequestOutcome) : o.label = word o := by
  cases o <;> rfl

/-- The kind and the reason that a line is rejected with for its fault. -/
inductive Blamed : Nat × Fault → (kind reason : String) → Prop where
  | malformed (n : Nat) (detail : String) :
    Blamed (n, .malformedLine n detail) "parse_error" s!"line {n}: invalid JSON: {detail}"
  | invalid (n : Nat) (detail : String) :
    Blamed (n, .invalidRecord n detail) "validation_error" s!"line {n}: {detail}"
  | full (n : Nat) : Blamed (n, .queueFull) "queue_full" "Inbound queue is full"
  | closing (n : Nat) : Blamed (n, .closed) "shutting_down" "Pipeline is shutting down"

theorem blamed_of_line? {p : Nat × Fault} (h : p.2.line? = some p.1) :
    Blamed p p.2.label p.2.message := by
  obtain ⟨n, f⟩ := p
  cases f with
  | malformedLine m detail =>
    obtain rfl : m = n := Option.some.inj h
    exact .malformed m detail
  | invalidRecord m detail =>
    obtain rfl : m = n := Option.some.inj h
    exact .invalid m detail
  | _ => cases h

theorem blamed_of_refused {p : Nat × Fault} (h : p.2 = .queueFull ∨ p.2 = .closed) :
    Blamed p p.2.label p.2.message := by
  obtain ⟨n, f⟩ := p
  rcases h with rfl | rfl
  · exact .full n
  · exact .closing n

/-- An error in an answer. -/
def errorJson (line : Json) (kind reason : String) : Json :=
  .obj [("line", line), ("kind", .str kind), ("reason", .str reason)]

/-- The line that an error in an answer is about. -/
def lineOf? : Json → Option Nat
  | .obj fields =>
    match fields.lookup "line" with
    | some (.int n) => some n.toNat
    | _ => none
  | _ => none

/-- The **errors** in the answer to a request for some lines, of which some were rejected. -/
structure Errors (ls : List (Nat × Except Fault Entry)) (rejected : List (Nat × Fault))
    (errors : List Json) : Prop where
  /-- Where there are no lines this is the one error, which is about no line. -/
  nothing : ls = [] →
    errors = [errorJson .null "empty_body" "request body contains no records"]
  /-- Otherwise as many of the rejected lines are named as may be, -/
  length : ls ≠ [] → errors.length = min 100 rejected.length
  /-- each by its number, and by the kind and the reason of its own fault, -/
  own : ls ≠ [] → ∀ e ∈ errors, ∃ p ∈ rejected, ∃ kind reason, Blamed p kind reason ∧
    e = errorJson (.nat p.1) kind reason
  /-- in the order of the lines, -/
  order : (errors.filterMap lineOf?).Pairwise (· < ·)
  /-- and none is left out unless there are too many. -/
  every : ls ≠ [] → rejected.length ≤ 100 →
    (errors.filterMap lineOf?).Perm (rejected.map Prod.fst)

namespace Tally

/-- The faults that an answer names. -/
def named (faults : List (Nat × Fault)) : List (Nat × Fault) :=
  (faults.take maxReported).mergeSort fun p q => p.1 ≤ q.1

/-- The rejections in an answer, unless there is nothing to answer. -/
theorem reported_found {faults : List (Nat × Fault)} {accepted : Nat} {halted : Option Fault}
    (h : 0 < accepted + faults.length) :
    (found faults accepted halted).reported = (named faults).map fun p => .of (some p.1) p.2 := by
  have hne : ¬(accepted = 0 ∧ faults.length = 0) := by omega
  rw [reported, found, if_neg hne, named]
  refine (List.map_mergeSort fun p _ q _ => ?_).symm
  simp [place, Rejection.of]

theorem reported_nothing (halted : Option Fault) : (found [] 0 halted).reported = [nothing] :=
  List.mergeSort_singleton _

theorem named_perm (faults : List (Nat × Fault)) :
    (named faults).Perm (faults.take maxReported) :=
  List.mergeSort_perm _ _

theorem named_pairwise {faults : List (Nat × Fault)} (h : (faults.map Prod.fst).Nodup) :
    ((named faults).map Prod.fst).Pairwise (· < ·) := by
  have hle : ((named faults).map Prod.fst).Pairwise (· ≤ ·) := by
    refine List.pairwise_map.mpr ((List.pairwise_mergeSort (fun a b c => ?_) (fun a b => ?_)
      (faults.take maxReported)).imp fun h => ?_)
    · simpa using Nat.le_trans
    · simpa using Nat.le_total a.1 b.1
    · simpa using h
  have hnodup : ((named faults).map Prod.fst).Nodup := by
    refine ((named_perm faults).map Prod.fst).nodup_iff.mpr ?_
    rw [List.map_take]
    exact h.sublist (List.take_sublist _ _)
  exact (hle.and hnodup).imp fun h => Nat.lt_of_le_of_ne h.1 h.2

theorem filterMap_lineOf? (l : List (Nat × Fault)) :
    (l.map fun p => rejectionJson (.of (some p.1) p.2)).filterMap lineOf? = l.map Prod.fst := by
  rw [List.filterMap_map]
  exact List.filterMap_eq_map' (f := Prod.fst) ▸ rfl

/-- The errors in an answer are those that the rejected lines ask for. -/
theorem errors_found {ls : List (Nat × Except Fault Entry)} {faults : List (Nat × Fault)}
    {accepted : Nat} (halted : Option Fault) (hcomplete : accepted + faults.length = ls.length)
    (hdistinct : (faults.map Prod.fst).Nodup)
    (hblamed : ∀ p ∈ faults, Blamed p p.2.label p.2.message) :
    Errors ls faults ((found faults accepted halted).reported.map rejectionJson) := by
  rcases eq_or_ne ls [] with rfl | hne
  · rw [List.length_nil, Nat.add_eq_zero_iff, List.length_eq_zero_iff] at hcomplete
    obtain ⟨rfl, rfl⟩ := hcomplete
    rw [reported_nothing]
    exact ⟨fun _ => rfl, fun h => absurd rfl h, fun h => absurd rfl h, .nil, fun h => absurd rfl h⟩
  · have hpos := List.length_pos_iff.mpr hne
    rw [reported_found (hcomplete ▸ hpos), List.map_map]
    have hlines := filterMap_lineOf? (named faults)
    have hperm := named_perm faults
    refine ⟨fun h => absurd h hne, fun _ => ?_, fun _ e he => ?_, ?_, fun _ hle => ?_⟩
    · rw [List.length_map, hperm.length_eq, List.length_take]
      rfl
    · obtain ⟨p, hp, rfl⟩ := List.mem_map.mp he
      have hmem := List.mem_of_mem_take (hperm.subset hp)
      exact ⟨p, hmem, _, _, hblamed p hmem, rfl⟩
    · exact hlines ▸ named_pairwise hdistinct
    · refine (List.Perm.of_eq hlines).trans ((hperm.trans (.of_eq ?_)).map Prod.fst)
      exact List.take_of_length_le hle

/-- What the outcome of a request says about its entries. -/
structure Outcomes {σ : Type} (d : Desk σ) (s : σ) (entries : List (Nat × Entry)) (t : Tally) :
    Prop where
  /-- Everything is accepted, -/
  all : t.outcome = .accepted ↔ entries ≠ [] ∧ t.rejected = 0
  /-- or a part, -/
  partly : t.outcome = .partly ↔ 0 < t.accepted ∧ 0 < t.rejected
  /-- or nothing, because no more is taken in, -/
  closing : t.outcome = .closing ↔ ∃ p ∈ entries.head?, (d.offer s p.2).1 = .error .closed
  /-- for want of room, -/
  backpressure : t.outcome = .backpressure ↔
    ∃ p ∈ entries.head?, (d.offer s p.2).1 = .error .queueFull
  /-- or because there is nothing to take in. -/
  malformed : t.outcome = .malformed ↔ entries = []

theorem outcomes_found {σ : Type} (d : Desk σ) {s s' : σ} {entries taken : List (Nat × Entry)}
    {refused : List (Nat × Fault)} (h : Course d.offer s entries taken refused s')
    (faults : List (Nat × Fault)) : Outcomes d s entries
      (found (faults ++ refused) taken.length (refused.head?.map Prod.snd)) := by
  cases h with
  | ends s => constructor <;> simp [found, outcome]
  | accepts hok _ =>
    generalize faults ++ refused = all
    rcases Nat.eq_zero_or_pos all.length with hzero | hpos
    · constructor <;> simp [found, outcome, hok, hzero]
    · constructor <;> simp [found, outcome, hok, hpos, Nat.ne_of_gt hpos]
  | refuses rest herror =>
    rcases d.refuses _ _ _ herror with rfl | rfl <;> constructor <;>
      simp [found, outcome, herror]

end Tally

/-! ### Counts -/

/-- The value of an exported series. -/
def value (x : Exported) (s : Series) : UInt64 :=
  (x.counters.lookup s).getD 0

theorem lookup_bump (counters : List (Series × UInt64)) (s s' : Series) (n : UInt64) :
    ((Exported.bump counters s n).lookup s').getD 0 =
      (counters.lookup s').getD 0 + if s = s' then n else 0 := by
  induction counters with
  | nil =>
    by_cases h : s = s'
    · simp [Exported.bump, h]
    · simp [Exported.bump, h, List.lookup_cons, beq_eq_false_iff_ne.mpr (Ne.symm h)]
  | cons p rest ih =>
    obtain ⟨t, m⟩ := p
    rw [Exported.bump]
    by_cases hst : t = s
    · subst hst
      by_cases h : t = s'
      · simp [h]
      · simp [h, List.lookup_cons, beq_eq_false_iff_ne.mpr (Ne.symm h)]
    · rw [if_neg hst]
      by_cases h : t = s'
      · have hne : s ≠ s' := fun heq => hst (h.trans heq.symm)
        simp [h, hne]
      · rw [List.lookup_cons, List.lookup_cons, beq_eq_false_iff_ne.mpr (Ne.symm h)]
        exact ih

theorem value_count (x : Exported) (name : String) (n : UInt64) (s : Series) :
    value (x.count name n) s = value x s + if ⟨name, none⟩ = s then n else 0 :=
  lookup_bump _ _ _ _

theorem value_countLabelled (x : Exported) (name key label : String) (s : Series) :
    value (x.countLabelled name key label) s =
      value x s + if ⟨name, some (key, label)⟩ = s then 1 else 0 :=
  lookup_bump _ _ _ _

/-- The series of the requests that were answered in one way. -/
def requestSeries (o : RequestOutcome) : Series :=
  ⟨"log_ingest_requests_total", some ("outcome", word o)⟩

/-- The series of accepted entries. -/
def acceptedSeries : Series :=
  ⟨"log_ingest_records_accepted_total", none⟩

/-- The series of the lines that were rejected for faults of one kind. -/
def rejectedSeries (kind : String) : Series :=
  ⟨"log_ingest_records_rejected_total", some ("reason", kind)⟩

namespace Tally

variable (faults : List (Nat × Fault))

/-- The counts after some lines were rejected. -/
def countRejected (m : Metrics) : Metrics :=
  (faults.map fun p => Event.recordRejected p.2.label).foldl Metrics.add m

theorem totals_countRejected (m : Metrics) : (countRejected faults m).totals =
    { m.totals with
      recordsRejected := m.totals.recordsRejected + UInt64.ofNat faults.length } := by
  rw [countRejected]
  induction faults generalizing m with
  | nil => simp
  | cons p faults ih =>
    rw [List.map_cons, List.foldl_cons, ih]
    simp [Metrics.add, Totals.add, UInt64.add_assoc, UInt64.add_comm]

theorem value_countRejected (m : Metrics) (s : Series) :
    value (countRejected faults m).exported s = value m.exported s +
      UInt64.ofNat (faults.countP fun p => rejectedSeries p.2.label = s) := by
  rw [countRejected]
  induction faults generalizing m with
  | nil => simp
  | cons p faults ih =>
    have hone : value (m.add (.recordRejected p.2.label)).exported s =
        value m.exported s + if rejectedSeries p.2.label = s then 1 else 0 :=
      value_countLabelled _ _ _ _ _
    rw [List.map_cons, List.foldl_cons, ih, hone, List.countP_cons]
    by_cases h : rejectedSeries p.2.label = s
    · simp only [h, decide_true, if_true, UInt64.ofNat_add, UInt64.add_assoc]
      rw [UInt64.add_comm 1]
      rfl
    · simp [h]

/-- A request counts its rejected lines, then itself, then the entries that it had accepted. -/
theorem counted_found (accepted : Nat) (halted : Option Fault) (m : Metrics) :
    (found faults accepted halted).counted.foldl Metrics.add m =
      ((countRejected faults m).add (.request (found faults accepted halted).outcome)).add
        (.recordsAccepted (UInt64.ofNat accepted)) := by
  rw [counted, List.foldl_append, found, List.reverse_reverse]
  rfl

theorem value_add_recordsAccepted (m : Metrics) (n : UInt64) (s : Series) :
    value (m.add (.recordsAccepted n)).exported s =
      value m.exported s + if acceptedSeries = s then n else 0 := by
  by_cases h : n = 0
  · simp [h, Metrics.add, Exported.add]
  · simp only [Metrics.add, Exported.add, if_neg h]
    exact value_count _ _ _ _

end Tally

/-! ### The account -/

/-- The **account** of a request for some lines: `t` is its tally, `taken` are the entries that were
accepted, and `refused` are the faults of those that were not. -/
structure Account {σ : Type} (d : Desk σ) (s s' : σ) (ls : List (Nat × Except Fault Entry))
    (t : Tally) (taken : List (Nat × Entry)) (refused : List (Nat × Fault)) : Prop where
  /-- Every line is accepted or rejected. -/
  complete : t.accepted + t.rejected = ls.length
  /-- The entries are offered in the order of their lines, until one is refused, -/
  course : Course d.offer s (Reading.parsed ls) taken refused s'
  /-- so those that are accepted are the first ones, -/
  accepted : t.accepted = taken.length ∧ taken <+: Reading.parsed ls
  /-- and the lines of the others are rejected, along with those that hold no entry. -/
  rejected : t.rejected = (Reading.unparsable ls ++ refused).length ∧
    refused.map Prod.fst = ((Reading.parsed ls).drop taken.length).map Prod.fst
  /-- No line is rejected twice. -/
  distinct : ((Reading.unparsable ls ++ refused).map Prod.fst).Nodup
  /-- Each for a fault of its own, which is one of four kinds. -/
  blamed : ∀ p ∈ Reading.unparsable ls ++ refused, Blamed p p.2.label p.2.message
  /-- The outcome follows from the lines and from the first offer. -/
  outcomes : Tally.Outcomes d s (Reading.parsed ls) t
  /-- The answer has the status that goes with this, -/
  status : t.response.status = match t.outcome with
    | .accepted => 202
    | .partly => 207
    | .closing | .backpressure => 503
    | .malformed => 400
  /-- and says when to come back if there was no room, and only then. -/
  retryAfter : t.response.retryAfter.isSome ↔ t.outcome = .backpressure
  /-- It is a JSON object with the word for the outcome, both counts and the errors. -/
  body : t.response.contentType = some "application/json" ∧
    ∃ errors, Errors ls (Reading.unparsable ls ++ refused) errors ∧
      t.response.body = .json (.obj [("status", .str (word t.outcome)),
        ("accepted", .nat t.accepted), ("rejected", .nat t.rejected), ("errors", .arr errors)])
  /-- The totals count one request, its accepted entries and its rejected lines, -/
  totals : ∀ m : Metrics, (t.counted.foldl Metrics.add m).totals =
    { m.totals with
      requests := m.totals.requests + 1
      recordsAccepted := m.totals.recordsAccepted + UInt64.ofNat t.accepted
      recordsRejected := m.totals.recordsRejected + UInt64.ofNat t.rejected }
  /-- and so do the exported series, where requests count by their outcomes and rejected lines by
  the kinds of their faults. -/
  series : ∀ (m : Metrics) (x : Series), value (t.counted.foldl Metrics.add m).exported x =
    value m.exported x +
      UInt64.ofNat ((Reading.unparsable ls ++ refused).countP
        fun p => rejectedSeries p.2.label = x) +
      (if requestSeries t.outcome = x then 1 else 0) +
      if acceptedSeries = x then UInt64.ofNat t.accepted else 0

theorem Course.accounts {σ : Type} (d : Desk σ) {s s' : σ} {ls : List (Nat × Except Fault Entry)}
    {taken : List (Nat × Entry)} {refused : List (Nat × Fault)}
    (h : Course d.offer s (Reading.parsed ls) taken refused s')
    (hls : (ls.map Prod.fst).Pairwise (· < ·))
    (hown : ∀ p ∈ Reading.unparsable ls, p.2.line? = some p.1) :
    Account d s s' ls (Tally.found (Reading.unparsable ls ++ refused) taken.length
      (refused.head?.map Prod.snd)) taken refused := by
  obtain ⟨rest, hparsed, hrefused⟩ := h.splits
  have hlines := h.lines_perm
  have hcomplete : taken.length + (Reading.unparsable ls ++ refused).length = ls.length := by
    simpa only [List.length_append, List.length_map] using hlines.length_eq
  have hdistinct : ((Reading.unparsable ls ++ refused).map Prod.fst).Nodup :=
    (hlines.nodup_iff.mpr (hls.imp Nat.ne_of_lt)).sublist (List.sublist_append_right _ _)
  have hblamed : ∀ p ∈ Reading.unparsable ls ++ refused, Blamed p p.2.label p.2.message := by
    intro p hp
    rcases List.mem_append.mp hp with hp | hp
    · exact blamed_of_line? (hown p hp)
    · exact blamed_of_refused (h.faults d p hp)
  refine
    { complete := hcomplete
      course := h
      accepted := ⟨rfl, hparsed ▸ List.prefix_append taken rest⟩
      rejected := ⟨rfl, by rw [hrefused, hparsed, List.drop_left]⟩
      distinct := hdistinct
      blamed := hblamed
      outcomes := Tally.outcomes_found d h _
      status := ?status
      retryAfter := ?retryAfter
      body := ?body
      totals := fun m => ?totals
      series := fun m x => ?series }
  case status =>
    rw [Tally.response]
    split <;> cases Tally.outcome _ <;> rfl
  case retryAfter =>
    rw [Tally.response]
    split
    · rename_i hfull
      exact iff_of_true rfl hfull
    · rename_i hfull
      exact iff_of_false nofun hfull
  case body =>
    have herrors := Tally.errors_found (refused.head?.map Prod.snd) hcomplete hdistinct hblamed
    rw [Tally.response, label_eq_word]
    split <;> exact ⟨rfl, _, herrors, rfl⟩
  case totals =>
    rw [Tally.counted_found]
    simp only [Metrics.add, Totals.add, Tally.totals_countRejected]
    rfl
  case series =>
    rw [Tally.counted_found, Tally.value_add_recordsAccepted, ← Tally.value_countRejected,
      requestSeries, ← label_eq_word]
    exact congrArg (· + _) (value_countLabelled _ _ _ _ _)

/-- **Request accounting**, for every body and whatever becomes of the offers. -/
theorem Desk.account {σ : Type} (d : Desk σ) (s : σ) (body : List UInt8) :
    ∃ taken refused, Account d s (Tally.ofReading d.offer s (Reading.ofBody body)).2
      (Reading.lines body) (Tally.ofReading d.offer s (Reading.ofBody body)).1 taken refused := by
  obtain ⟨taken, refused, s', hcourse, htaken⟩ := Tally.takeAll_course d
    (Reading.unparsable (Reading.lines body)) 0 s (Reading.parsed (Reading.lines body))
  have hfirst := Tally.foldl_reject_found [] 0 none
    fun p (hp : p ∈ Reading.unparsable (Reading.lines body)) => Reading.line?_of_mem_unparsable hp
  rw [Nat.zero_add] at htaken
  refine ⟨taken, refused, ?_⟩
  rw [Tally.ofReading, Reading.ofBody, Reading.ofLines_eq]
  have htally := (congrArg (Tally.takeAll d.offer · s _) hfirst).trans htaken
  exact htally.symm ▸ hcourse.accounts d (Reading.numbered_pairwise 1 (splitLines body)).1
    fun p hp => Reading.line?_of_mem_unparsable hp

end Service

end LogIntake
