import LogIntake.Net.Address
import Mathlib.Data.List.Infix
import Mathlib.Data.List.TakeWhile

/-!
# The port of a socket address

A socket address is read as a whole: nothing may stand behind its port. The reader leaves a
**suffix** of what it was given at each of its parts, so the last part, a colon and the digits
of the port, is the end of the text. Neither the digits of a port nor anything behind the last
colon of `host:port` has a colon in it, whatever the host is, so the port that is read is the
port that was written (`port_of_ofText?`).
-/

namespace LogIntake.Net.SocketAddress

variable {α β : Type}

/-! ### What a reader leaves -/

/-- What a reader leaves is the end of what it was given. -/
def LeavesSuffix (r : Reader α) : Prop :=
  ∀ ⦃s a t⦄, r s = some (a, t) → t <:+ s

/-- One reader after another leaves a suffix. -/
theorem LeavesSuffix.bind {r : Reader α} {f : α × List Char → Option (β × List Char)}
    (hr : LeavesSuffix r) (hf : ∀ a, LeavesSuffix fun s => f (a, s)) :
    LeavesSuffix fun s => r s >>= f := by
  intro s b t h
  obtain ⟨⟨a, s'⟩, ha, hb⟩ := Option.bind_eq_some_iff.mp h
  exact (hf a hb).trans (hr ha)

/-- A reader that takes nothing leaves a suffix. -/
theorem leavesSuffix_pure (a : α) : LeavesSuffix fun s => some (a, s) := by
  intro s b t h
  cases h
  exact List.suffix_refl s

/-- A character is read off the front. -/
theorem eq_of_char? {c : Char} {s t : List Char} {u : Unit} (h : char? c s = some (u, t)) :
    s = c :: t := by
  cases s with
  | nil => cases h
  | cons d r =>
    simp only [char?, Option.ite_none_right_eq_some, Option.some.injEq, Prod.mk.injEq] at h
    rw [h.1, h.2.2]

theorem leavesSuffix_char? (c : Char) : LeavesSuffix (char? c) :=
  fun _ _ t h => eq_of_char? h ▸ List.suffix_cons c t

/-- A number is read off the digits at the front. -/
theorem eq_of_number? {base bound n : Nat} {width : Option Nat} {s t : List Char}
    (h : number? base width bound s = some (n, t)) :
    let ds := s.takeWhile fun c => (digit? base c).isSome
    ds ≠ [] ∧ n = ds.foldl (fun n c => n * base + (digit? base c).getD 0) 0 ∧ n < bound ∧
      t = s.drop ds.length := by
  simp only [number?, Option.ite_none_left_eq_some, Bool.or_eq_true, not_or, Option.some.injEq,
    Prod.mk.injEq, List.isEmpty_iff, decide_eq_true_eq, not_le] at h
  obtain ⟨⟨⟨hne, -⟩, hlt⟩, rfl, rfl⟩ := h
  exact ⟨hne, rfl, hlt, rfl⟩

theorem leavesSuffix_number? (base : Nat) (width : Option Nat) (bound : Nat) :
    LeavesSuffix (number? base width bound) :=
  fun s _ _ h => (eq_of_number? h).2.2.2 ▸ List.drop_suffix _ s

theorem leavesSuffix_octet? : LeavesSuffix octet? := by
  intro s a t h
  obtain ⟨⟨n, r⟩, hn, h⟩ := Option.bind_eq_some_iff.mp h
  simp only [Option.ite_none_left_eq_some, Option.pure_def, Option.some.injEq,
    Prod.mk.injEq] at h
  exact h.2.2 ▸ leavesSuffix_number? _ _ _ hn

theorem leavesSuffix_octets? : LeavesSuffix octets? :=
  leavesSuffix_octet?.bind fun _ => (leavesSuffix_char? '.').bind fun _ =>
    leavesSuffix_octet?.bind fun _ => (leavesSuffix_char? '.').bind fun _ =>
      leavesSuffix_octet?.bind fun _ => (leavesSuffix_char? '.').bind fun _ =>
        leavesSuffix_octet?.bind fun _ => leavesSuffix_pure _

/-- What follows the groups that are read is a suffix, however many groups there are. -/
theorem groups_suffix (limit : Nat) (first : Bool) (s : List Char) :
    (groups limit first s).2.2 <:+ s := by
  induction limit generalizing first s with
  | zero => exact List.suffix_refl s
  | succ limit ih =>
    have hcolon : ∀ s', (if first then some s else (char? ':' s).map (·.2)) = some s' →
        s' <:+ s := by
      intro s' h
      split at h
      · exact Option.some.inj h ▸ List.suffix_refl s
      · obtain ⟨⟨u, r⟩, hr, rfl⟩ := Option.map_eq_some_iff.mp h
        exact leavesSuffix_char? ':' hr
    rw [groups]
    dsimp only
    split
    · exact List.suffix_refl s
    · rename_i s' hs'
      split
      · rename_i r hr
        split at hr
        · exact (leavesSuffix_octets? hr).trans (hcolon s' hs')
        · cases hr
      · split
        · rename_i g r hr
          exact ((ih false r).trans (leavesSuffix_number? _ _ _ hr)).trans (hcolon s' hs')
        · exact List.suffix_refl s

theorem leavesSuffix_groups? : LeavesSuffix groups? := by
  intro s gs t h
  have hfront := groups_suffix 8 true s
  rw [groups?] at h
  generalize groups 8 true s = g at h hfront
  obtain ⟨front, dotted, r⟩ := g
  dsimp only at h hfront
  split at h
  · cases h
    exact hfront
  split at h
  · cases h
  obtain ⟨⟨u, r₁⟩, h₁, h⟩ := Option.bind_eq_some_iff.mp h
  obtain ⟨⟨v, r₂⟩, h₂, h⟩ := Option.bind_eq_some_iff.mp h
  have hback := groups_suffix (7 - front.length) true r₂
  cases h
  exact ((hback.trans (leavesSuffix_char? ':' h₂)).trans (leavesSuffix_char? ':' h₁)).trans hfront

theorem zone_suffix (s : List Char) : (zone s).2 <:+ s := by
  rw [zone.eq_def]
  split
  · rename_i r
    split
    · rename_i n t hn
      exact (leavesSuffix_number? _ _ _ hn).trans (List.suffix_cons '%' r)
    · exact List.suffix_refl _
  · exact List.suffix_refl _

/-! ### The end of a socket address -/

/-- An address ends in what its port is read from. -/
theorem port_of_v4? {s t : List Char} {a : SocketAddress} (h : v4? s = some (a, t)) :
    ∃ r, r <:+ s ∧ port? r = some (a.port, t) := by
  obtain ⟨⟨⟨w, x, y, z⟩, r⟩, hr, h⟩ := Option.bind_eq_some_iff.mp h
  obtain ⟨⟨p, r'⟩, hp, h⟩ := Option.bind_eq_some_iff.mp h
  cases h
  exact ⟨r, leavesSuffix_octets? hr, hp⟩

theorem port_of_v6? {s t : List Char} {a : SocketAddress} (h : v6? s = some (a, t)) :
    ∃ r, r <:+ s ∧ port? r = some (a.port, t) := by
  obtain ⟨⟨u, r₁⟩, h₁, h⟩ := Option.bind_eq_some_iff.mp h
  obtain ⟨⟨gs, r₂⟩, h₂, h⟩ := Option.bind_eq_some_iff.mp h
  obtain ⟨⟨v, r₃⟩, h₃, h⟩ := Option.bind_eq_some_iff.mp h
  obtain ⟨⟨p, r₄⟩, h₄, h⟩ := Option.bind_eq_some_iff.mp h
  cases h
  exact ⟨r₃, (((leavesSuffix_char? ']' h₃).trans (zone_suffix r₂)).trans
    (leavesSuffix_groups? h₂)).trans (leavesSuffix_char? '[' h₁), h₄⟩

/-- A port that ends a text is a colon and nothing but digits behind it. -/
theorem eq_of_port? {s : List Char} {p : UInt16} (h : port? s = some (p, [])) :
    ∃ ds, s = ':' :: ds ∧ (∀ c ∈ ds, (digit? 10 c).isSome) ∧
      p.toNat = ds.foldl (fun n c => n * 10 + (digit? 10 c).getD 0) 0 := by
  obtain ⟨⟨u, ds⟩, hcolon, h⟩ := Option.bind_eq_some_iff.mp h
  obtain ⟨⟨n, t⟩, hn, h⟩ := Option.bind_eq_some_iff.mp h
  simp only [Option.pure_def, Option.some.injEq, Prod.mk.injEq] at h
  obtain ⟨rfl, rfl⟩ := h
  obtain ⟨-, hvalue, hlt, hrest⟩ := eq_of_number? hn
  have hall : ds.takeWhile (fun c => (digit? 10 c).isSome) = ds :=
    (List.takeWhile_prefix _).eq_of_length_le (List.drop_eq_nil_iff.mp hrest.symm)
  rw [hall] at hvalue
  refine ⟨ds, eq_of_char? hcolon, List.takeWhile_eq_self_iff.mp hall, ?_⟩
  rw [UInt16.toNat_ofNat', Nat.mod_eq_of_lt hlt, hvalue]

/-! ### Digits -/

/-- A decimal digit is read as its value. -/
theorem digit?_of_isDigit {c : Char} (h : c.isDigit) : digit? 10 c = some (c.toNat - 48) := by
  simp only [Char.isDigit, Bool.and_eq_true, decide_eq_true_eq] at h
  have hrange : '0' ≤ c ∧ c ≤ '9' := h
  have hlt : c.toNat - 48 < 10 := by
    have : c.toNat ≤ 57 := h.2
    omega
  simp only [digit?, if_pos hrange, if_pos hlt]

theorem not_isSome_digit?_colon : ¬ (digit? 10 ':').isSome := by
  decide

/-- The digits of a number are read as the number. -/
theorem foldl_toDigits (n : Nat) :
    (Nat.toDigits 10 n).foldl (fun n c => n * 10 + (digit? 10 c).getD 0) 0 = n := by
  have hread : ∀ ds : List Char, (∀ c ∈ ds, c.isDigit) → ∀ v : Nat,
      ds.foldl (fun n c => n * 10 + (digit? 10 c).getD 0) v = Nat.ofDigitChars 10 ds v := by
    intro ds hds
    induction ds with
    | nil => exact fun v => rfl
    | cons c ds ih =>
      intro v
      have hc := digit?_of_isDigit (hds c List.mem_cons_self)
      rw [List.foldl_cons, ih fun d hd => hds d (List.mem_cons_of_mem c hd), hc,
        Nat.ofDigitChars_cons, Option.getD_some, Nat.mul_comm]
      rfl
  rw [hread _ fun c hc => Nat.isDigit_of_mem_toDigits (by decide) (by decide) hc,
    Nat.ofDigitChars_ten_toDigits]

/-! ### The port that is read -/

/-- Two texts that are equal have the same parts behind their last colons. -/
theorem eq_of_append_colon {s t ds es : List Char} (hds : ':' ∉ ds) (hes : ':' ∉ es)
    (h : s ++ ':' :: ds = t ++ ':' :: es) : ds = es := by
  obtain ⟨u, rfl, hu⟩ | ⟨u, rfl, hu⟩ := List.append_eq_append_iff.mp h
  · cases u with
    | nil => exact (List.cons.inj hu).2
    | cons c u =>
      have : ':' ∈ ds := (List.cons.inj hu).2 ▸ List.mem_append_right u List.mem_cons_self
      exact absurd this hds
  · cases u with
    | nil => exact (List.cons.inj hu).2.symm
    | cons c u =>
      have : ':' ∈ es := (List.cons.inj hu).2 ▸ List.mem_append_right u List.mem_cons_self
      exact absurd this hes

/-- A text that ends in a colon and the digits of a port is read with that port, whatever
stands in front of them. -/
theorem port_of_ofText? {host : List Char} {port : UInt16} {a : SocketAddress}
    (h : ofText? (host ++ ':' :: Nat.toDigits 10 port.toNat) = some a) : a.port = port := by
  rw [ofText?] at h
  split at h
  · rename_i b hb
    obtain rfl := Option.some.inj h
    obtain ⟨r, ⟨front, hr⟩, hp⟩ : ∃ r,
        r <:+ host ++ ':' :: Nat.toDigits 10 port.toNat ∧ port? r = some (b.port, []) := by
      rw [Option.orElse_eq_orElse, Option.orElse_eq_or, Option.or_eq_some_iff] at hb
      obtain hv4 | ⟨-, hv6⟩ := hb
      · exact port_of_v4? hv4
      · exact port_of_v6? hv6
    obtain ⟨ds, rfl, hdigits, hvalue⟩ := eq_of_port? hp
    have hds : ':' ∉ ds := fun hc => not_isSome_digit?_colon (hdigits _ hc)
    have hport : ':' ∉ Nat.toDigits 10 port.toNat := fun hc =>
      absurd (Nat.isDigit_of_mem_toDigits (by decide) (by decide) hc) (by decide)
    rw [eq_of_append_colon hds hport hr, foldl_toDigits] at hvalue
    exact UInt16.toNat_inj.mp hvalue
  · cases h

end LogIntake.Net.SocketAddress
