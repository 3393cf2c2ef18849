import LogIntake.Proofs.Pipeline.Order
import LogIntake.Proofs.Pipeline.Schedule
import LogIntake.Service.Ingest

/-!
# Requests in a pipeline

The entries of one request are offered one by one, in the order of their lines, and each one only
after the answer to the one before. A **producer** is anything that offers entries in this way
while everybody else goes on; the caller of a schedule is one (`Producer.schedule`).

`Producer.serve_spec` says what comes of a request: its accepted entries are the first ones of its
lines, and they entered their queues in that order. With the order among the entries of a source
this gives the whole way from the lines of a body to the store (`Run.inOrder`).
-/

namespace LogIntake

open Pipeline

namespace Pipeline.World

/-- A new offer is the last one. It is accepted at once or later, if at all, and what it waits for
begins now. -/
theorem exists_offer (w : World) (e : Entry) :
    ∃ o, (w.offer e).offers[w.offers.length]? = some o ∧ o.entry = e ∧
      (∀ n, o.state = .accepted n → w.entered = n ∧ n < (w.offer e).entered) ∧
      ∀ till granted, o.state = .waiting till granted →
        till = w.now + w.settings.enqueueTimeout := by
  rw [offer]
  split
  · exact ⟨_, List.getElem?_concat_length, rfl, nofun, nofun⟩
  · split
    · exact ⟨_, List.getElem?_concat_length, rfl, nofun, nofun⟩
    · split
      · refine ⟨_, List.getElem?_concat_length, rfl, fun n hn => ?_, nofun⟩
        cases hn
        exact ⟨rfl, Nat.lt_succ_self _⟩
      · refine ⟨_, List.getElem?_concat_length, rfl, nofun, fun till granted hstate => ?_⟩
        cases hstate
        rfl

theorem mem_accepted {w : World} {t n : Nat} {o : Offer} (ho : w.offers[t]? = some o)
    (hstate : o.state = .accepted n) : ⟨n, o.entry⟩ ∈ w.accepted :=
  List.mem_filterMap.mpr ⟨o, List.mem_of_getElem? ho, by rw [Offer.item?, hstate]⟩

end Pipeline.World

/-! ### Lines -/

namespace Reading

/-- Lines are read in the order of their numbers. -/
theorem ofLines_pairwise (line : Nat) (ls : List (List UInt8)) :
    ((ofLines line ls).entries.map Prod.fst).Pairwise (· < ·) ∧
      ∀ n ∈ (ofLines line ls).entries.map Prod.fst, line ≤ n := by
  induction ls generalizing line with
  | nil => exact ⟨.nil, nofun⟩
  | cons l ls ih =>
    obtain ⟨hpairwise, hle⟩ := ih (line + 1)
    rw [ofLines]
    split
    · exact ⟨hpairwise, fun n hn => Nat.le_of_succ_le (hle n hn)⟩
    · cases Entry.ofLine line (Text.trimAscii l) with
      | ok e =>
        refine ⟨List.pairwise_cons.mpr ⟨fun n hn => hle n hn, hpairwise⟩, fun n hn => ?_⟩
        rcases List.mem_cons.mp hn with rfl | hn
        · exact Nat.le_refl _
        · exact Nat.le_of_succ_le (hle n hn)
      | error f => exact ⟨hpairwise, fun n hn => Nat.le_of_succ_le (hle n hn)⟩

theorem ofBody_pairwise (body : List UInt8) :
    ((ofBody body).entries.map Prod.fst).Pairwise (· < ·) :=
  (ofLines_pairwise 1 _).1

end Reading

namespace Service

namespace Tally

variable {σ : Type} {offer : σ → Entry → Except Fault Unit × σ}

@[simp] theorem accepted_reject (t : Tally) (line : Option Nat) (f : Fault) :
    (t.reject line f).accepted = t.accepted := rfl

theorem takeAll_cons (t : Tally) (s : σ) (p : Nat × Entry) (rest : List (Nat × Entry)) :
    takeAll offer t s (p :: rest) =
      takeAll offer (t.take offer s p.1 p.2).1 (t.take offer s p.1 p.2).2 rest := rfl

theorem take_of_ok {t : Tally} {s : σ} {e : Entry} (line : Nat) (h : t.halted = none)
    (hok : (offer s e).1 = .ok ()) :
    t.take offer s line e = ({ t with accepted := t.accepted + 1 }, (offer s e).2) := by
  rw [take, h]
  dsimp only
  rw [← Prod.eta (offer s e), hok]

theorem take_of_error {t : Tally} {s : σ} {e : Entry} {f : Fault} (line : Nat)
    (h : t.halted = none) (herror : (offer s e).1 = .error f) :
    t.take offer s line e =
      ({ t.reject (some line) f with halted := some (haltOf f) }, (offer s e).2) := by
  rw [take, h]
  dsimp only
  rw [← Prod.eta (offer s e), herror]

variable (offer) in
/-- After an offer was refused nothing is offered any more. -/
theorem takeAll_of_halted {f : Fault} (entries : List (Nat × Entry)) {t : Tally} (s : σ)
    (h : t.halted = some f) :
    (takeAll offer t s entries).1.accepted = t.accepted ∧ (takeAll offer t s entries).2 = s := by
  induction entries generalizing t with
  | nil => exact ⟨rfl, rfl⟩
  | cons p rest ih =>
    have htake : t.take offer s p.1 p.2 = (t.reject (some p.1) f, s) := by rw [take, h]
    rw [takeAll_cons, htake]
    exact ih h

theorem foldl_reject (faults : List Fault) (t : Tally) :
    (faults.foldl (fun t f => t.reject f.line? f) t).accepted = t.accepted := by
  induction faults generalizing t with
  | nil => rfl
  | cons f faults ih => rw [List.foldl_cons, ih, accepted_reject]

end Tally

/-! ### Producers -/

/-- Who offers entries one by one: an entry is offered after some steps of the pipeline, and some
steps later there is an answer, which is good only if the entry was accepted. -/
structure Producer (σ : Type) where
  world : σ → World
  offer : σ → Entry → Except Fault Unit × σ
  lawful : ∀ (x : σ) (e : Entry), ∃ w, Reaches (world x) w ∧
    Reaches (w.offer e) (world (offer x e).2) ∧
    ((offer x e).1 = .ok () →
      Schedule.answer? (world (offer x e).2) w.offers.length = some (.ok ()))

namespace Producer

/-- The caller of a schedule. -/
def schedule : Producer Schedule where
  world := Schedule.world
  offer := Schedule.offer
  lawful := Schedule.offer_spec

variable {σ : Type}

/-- An entry that the producer learns to be accepted entered its queue meanwhile. -/
theorem offer_ok (P : Producer σ) {x : σ} {e : Entry} (h : (P.offer x e).1 = .ok ()) :
    ∃ n, ⟨n, e⟩ ∈ (P.world (P.offer x e).2).accepted ∧
      (P.world x).entered ≤ n ∧ n < (P.world (P.offer x e).2).entered := by
  obtain ⟨w, hbefore, hafter, hok⟩ := P.lawful x e
  obtain ⟨r⟩ := hbefore.run
  obtain ⟨r'⟩ := hafter.run
  obtain ⟨o, ho, hentry, hat, -⟩ := w.exists_offer e
  obtain ⟨o', ho', hbecomes⟩ := r'.offer ho
  have hanswer := hok h
  rw [Schedule.answer?, ho'] at hanswer
  have hle : w.entered ≤ (w.offer e).entered :=
    World.entered_le_of_apply (a := .offer e) rfl
  cases hstate : o'.state with
  | waiting till granted => simp [hstate] at hanswer
  | refused f => simp [hstate] at hanswer
  | accepted n =>
    have hmem := World.mem_accepted ho' hstate
    rw [hbecomes.entry, hentry] at hmem
    refine ⟨n, hmem, ?_⟩
    -- It was accepted at once under the next number, or after a wait under a later one.
    rcases hbecomes.fresh n hstate with hn | ⟨hlow, hhigh⟩
    · obtain ⟨rfl, hlt⟩ := hat n hn
      exact ⟨r.entered_le, Nat.lt_of_lt_of_le hlt r'.entered_le⟩
    · exact ⟨Nat.le_trans r.entered_le (Nat.le_trans hle hlow), hhigh⟩

theorem reaches_offer (P : Producer σ) (x : σ) (e : Entry) :
    Reaches (P.world x) (P.world (P.offer x e).2) := by
  obtain ⟨w, hbefore, hafter, -⟩ := P.lawful x e
  exact hbefore.trans ((Reaches.single (a := .offer e) rfl).trans hafter)

/-- The entries that are accepted are the first ones, and enter in their order. -/
theorem takeAll_spec (P : Producer σ) (t : Tally) (x : σ) (entries : List (Nat × Entry)) :
    Reaches (P.world x) (P.world (Tally.takeAll P.offer t x entries).2) ∧
      ∃ items : List Item,
        (Tally.takeAll P.offer t x entries).1.accepted = t.accepted + items.length ∧
        items.map Item.entry <+: entries.map Prod.snd ∧
        (items.Pairwise fun y z => y.id < z.id) ∧
        ∀ z ∈ items, (P.world x).entered ≤ z.id ∧
          z ∈ (P.world (Tally.takeAll P.offer t x entries).2).accepted := by
  induction entries generalizing t x with
  | nil => exact ⟨.refl, [], rfl, List.nil_prefix, .nil, nofun⟩
  | cons p rest ih =>
    cases hhalted : t.halted with
    | some f =>
      obtain ⟨haccepted, hsame⟩ := Tally.takeAll_of_halted P.offer (p :: rest) x hhalted
      rw [hsame, haccepted]
      exact ⟨.refl, [], rfl, List.nil_prefix, .nil, nofun⟩
    | none =>
      have hreaches := P.reaches_offer x p.2
      rw [Tally.takeAll_cons]
      cases hanswer : (P.offer x p.2).1 with
      | error f =>
        rw [Tally.take_of_error p.1 hhalted hanswer]
        obtain ⟨haccepted, hsame⟩ := Tally.takeAll_of_halted P.offer rest
          (t := { t.reject (some p.1) f with halted := some (Tally.haltOf f) })
          (P.offer x p.2).2 rfl
        rw [hsame, haccepted]
        exact ⟨hreaches, [], rfl, List.nil_prefix, .nil, nofun⟩
      | ok u =>
        rw [Tally.take_of_ok p.1 hhalted hanswer]
        -- The entries after it are offered only now, so their numbers are higher.
        obtain ⟨n, hmem, hlow, hhigh⟩ := P.offer_ok (x := x) (e := p.2) hanswer
        obtain ⟨hrest, items, haccepted, hprefix, hpairwise, hlater⟩ :=
          ih { t with accepted := t.accepted + 1 } (P.offer x p.2).2
        obtain ⟨r⟩ := hrest.run
        obtain ⟨r₀⟩ := hreaches.run
        refine ⟨hreaches.trans hrest, ⟨n, p.2⟩ :: items, ?_, ?_, ?_, fun z hz => ?_⟩
        · rw [haccepted, List.length_cons, Nat.add_assoc, Nat.add_comm 1]
        · rw [List.map_cons, List.map_cons]
          exact List.cons_prefix_cons.mpr ⟨rfl, hprefix⟩
        · exact List.pairwise_cons.mpr
            ⟨fun z hz => Nat.lt_of_lt_of_le hhigh (hlater z hz).1, hpairwise⟩
        · rcases List.mem_cons.mp hz with rfl | hz
          · exact ⟨hlow, r.accepted_subset hmem⟩
          · exact ⟨Nat.le_trans r₀.entered_le (hlater z hz).1, (hlater z hz).2⟩

/-- What becomes of the lines of a body. -/
def serve (P : Producer σ) (x : σ) (body : List UInt8) : Tally × σ :=
  Tally.ofReading P.offer x (Reading.ofBody body)

/-- The entries of a request that are accepted are the first ones of its lines, and enter in the
order of these lines. -/
theorem serve_spec (P : Producer σ) (x : σ) (body : List UInt8) :
    ∃ items : List Item, (P.serve x body).1.accepted = items.length ∧
      items.map Item.entry <+: (Reading.ofBody body).entries.map Prod.snd ∧
      (items.Pairwise fun y z => y.id < z.id) ∧
      ∀ z ∈ items, z ∈ (P.world (P.serve x body).2).accepted := by
  obtain ⟨-, items, haccepted, hprefix, hpairwise, hitems⟩ := P.takeAll_spec
    ((Reading.ofBody body).faults.foldl (fun t f => t.reject f.line? f) {}) x
    (Reading.ofBody body).entries
  rw [Tally.foldl_reject, Nat.zero_add] at haccepted
  exact ⟨items, haccepted, hprefix, hpairwise, fun z hz => (hitems z hz).2⟩

end Producer

end Service

namespace Pipeline

open Service

/-- **Order** at the end of a run, from the lines of requests to the store. -/
structure InOrder {w₀ w : World} (r : Run w₀ w) : Prop where
  /-- No entry enters a queue twice. -/
  distinct : r.arrivals.Nodup
  /-- The batches that were stored hold the entries of a source in the order in which they
  entered their queue, none of them twice. -/
  stored : ∀ source, ((r.ledger.met .stored).filter (Item.isFrom source)).Sublist
    (r.arrivals.filter (Item.isFrom source))
  /-- The provider was asked for them, each for the first time, in the same order. -/
  asked : ∀ source, (w.firstAsked.filter (Item.isFrom source)).Sublist
    (r.arrivals.filter (Item.isFrom source))
  /-- The entries of a request that were accepted are the first ones of its lines, and entered in
  the order of these lines, -/
  requests : ∀ {σ : Type} (P : Producer σ) (x : σ) (body : List UInt8),
    Run (P.world (P.serve x body).2) w →
      ∃ items : List Item, (P.serve x body).1.accepted = items.length ∧
        items.map Item.entry <+: (Reading.ofBody body).entries.map Prod.snd ∧
        items.Sublist r.arrivals
  /-- which is the order of their numbers. -/
  lines : ∀ body : List UInt8, ((Reading.ofBody body).entries.map Prod.fst).Pairwise (· < ·)

/-- **Entries keep their order** in every run of a pipeline, whatever its settings, its producers
and its backends are. -/
theorem Run.inOrder {s : Settings} {c : Client} {b : Backend} {w : World}
    (r : Run (World.start s c b) w) : InOrder r where
  distinct := r.arrivals_nodup
  stored := r.stored_sublist
  asked := r.firstAsked_sublist
  requests P x body r' := by
    obtain ⟨items, haccepted, hprefix, hpairwise, hitems⟩ := P.serve_spec x body
    refine ⟨items, haccepted, hprefix, ?_⟩
    refine sublist_of_pairwise hpairwise (r.arrivals_pairwise (World.orderly_start s c b)) ?_
    exact fun z hz => r.mem_arrivals.mpr (r'.accepted_subset (hitems z hz))
  lines := Reading.ofBody_pairwise

end Pipeline

end LogIntake
