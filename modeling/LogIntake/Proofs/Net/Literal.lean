import LogIntake.Proofs.Net.Port
import LogIntake.Proofs.Text.Digits
import Mathlib.Data.List.Induction

/-!
# IP addresses as texts

The texts of an IPv4 address and of an IPv6 address without a zone are given by their syntax: four
decimal numbers with points between them (`writeOctets`), and eight groups with colons between them
of which the last two may be written as four decimal numbers and a run of zero groups may be left
out (`Literal`).

In front of a port an IPv4 address stands as it is, an IPv6 address in brackets and perhaps with a
zone (`Spells`). A socket address is read exactly where its address is spelled so (`ofText?_iff`).
An IPv6 address without brackets spells nothing (`Literal.not_spells`).
-/

namespace LogIntake.Net

open SocketAddress

/-! ### Syntax -/

/-- The value of digits in a base. -/
def digitsValue (base : Nat) (ds : List Char) : Nat :=
  ds.foldl (fun n c => n * base + (digit? base c).getD 0) 0

/-- A group as it is written: up to four hexadecimal digits. -/
structure Group where
  digits : List Char
  nonempty : digits ≠ []
  short : digits.length ≤ 4
  hex : ∀ c ∈ digits, (digit? 16 c).isSome

/-- The 16 bits of a group. -/
def Group.value (g : Group) : UInt16 :=
  UInt16.ofNat (digitsValue 16 g.digits)

/-- Groups as they are written one after another; the last two may be written as four bytes in
decimal. -/
structure Run where
  groups : List Group
  dotted : Option (UInt8 × UInt8 × UInt8 × UInt8)

namespace Run

/-- The groups. -/
def values (run : Run) : List UInt16 :=
  run.groups.map Group.value ++
    match run.dotted with
    | none => []
    | some (a, b, c, d) => [pair a b, pair c d]

/-- What stands between the colons. -/
def parts (run : Run) : List (List Char) :=
  run.groups.map Group.digits ++
    match run.dotted with
    | none => []
    | some (a, b, c, d) => [writeOctets a b c d]

/-- The text of a run. -/
def text (run : Run) : List Char :=
  [':'].intercalate run.parts

end Run

/-- An IPv6 address without a zone as it is written. -/
inductive Literal where
  | full (run : Run) (h : run.values.length = 8)
  /-- One or more zero groups are left out between a front and a back, both of which may be
  empty. -/
  | short (front : List Group) (back : Run) (h : front.length + back.values.length ≤ 7)

namespace Literal

/-- The eight groups of an address. -/
def groups : Literal → List UInt16
  | full run _ => run.values
  | short front back _ =>
    let zeros := 8 - front.length - back.values.length
    front.map Group.value ++ List.replicate zeros 0 ++ back.values

/-- The text of an address. -/
def text : Literal → List Char
  | full run _ => run.text
  | short front back _ => (Run.mk front none).text ++ ':' :: ':' :: back.text

/-- The address all of whose groups are left out. -/
def unspecified : Literal :=
  short [] ⟨[], none⟩ (by decide)

example : (short [] ⟨[⟨"ffff".toList, by decide, by decide, by simp [digit?]⟩],
    some (1, 2, 3, 4)⟩ (by decide)).text = "::ffff:1.2.3.4".toList := by decide +kernel

end Literal

/-! ### Runs in their place -/

/-- What stands before a run: a colon, unless it comes first. -/
def separator (first : Bool) : List Char :=
  if first then [] else [':']

/-- The text of a run in its place, where a run without groups has no text. -/
def Run.written (run : Run) : (first : Bool) → List Char
  | true => run.text
  | false => run.parts.flatMap (':' :: ·)

theorem intercalate_cons (p : List Char) (ps : List (List Char)) :
    [':'].intercalate (p :: ps) = p ++ ps.flatMap (':' :: ·) := by
  induction ps generalizing p with
  | nil => simp
  | cons q qs ih =>
    rw [List.intercalate_cons_cons, ih, List.flatMap_cons]
    simp

namespace Run

variable (g : Group) (gs : List Group) (dotted : Option (UInt8 × UInt8 × UInt8 × UInt8))

theorem written_true (run : Run) : run.written true = run.text :=
  rfl

theorem written_empty (first : Bool) : (Run.mk [] none).written first = [] := by
  cases first <;> rfl

theorem written_dotted (a b c d : UInt8) (first : Bool) :
    (Run.mk [] (some (a, b, c, d))).written first = separator first ++ writeOctets a b c d := by
  cases first <;> simp [written, text, parts, separator]

theorem written_cons (first : Bool) : (Run.mk (g :: gs) dotted).written first =
    separator first ++ (g.digits ++ (Run.mk gs dotted).written false) := by
  cases first with
  | true => exact intercalate_cons _ _
  | false => simp [written, parts, separator]

end Run

/-! ### Numbers -/

namespace SocketAddress

variable {base bound : Nat} {width : Option Nat} {s t ds : List Char} {c : Char}

/-- Digits with something else behind them are read as their value. -/
theorem number?_append (hne : ds ≠ []) (hds : ∀ c ∈ ds, (digit? base c).isSome)
    (ht : ∀ c ∈ t.head?, ¬ (digit? base c).isSome) (hwidth : ∀ w ∈ width, ds.length ≤ w)
    (hbound : digitsValue base ds < bound) :
    number? base width bound (ds ++ t) = some (digitsValue base ds, t) := by
  have htake : (ds ++ t).takeWhile (fun c => (digit? base c).isSome) = ds :=
    Text.takeWhile_append_of_head? hds ht
  have hempty : ds.isEmpty = false := List.isEmpty_eq_false_iff.mpr hne
  simp only [number?, htake, hempty, List.drop_left]
  refine if_neg ?_
  cases width with
  | none => simpa [digitsValue] using hbound
  | some w => simpa [digitsValue, hwidth w rfl] using hbound

theorem number?_eq_none (h : ∀ c ∈ s.head?, ¬ (digit? base c).isSome) :
    number? base width bound s = none := by
  have htake : ([] ++ s).takeWhile (fun c => (digit? base c).isSome) = [] :=
    Text.takeWhile_append_of_head? nofun h
  rw [List.nil_append] at htake
  simp only [number?, htake]
  rfl

/-- What is read as a number is digits. -/
theorem exists_of_number? {n : Nat} (h : number? base width bound s = some (n, t)) :
    ∃ ds, s = ds ++ t ∧ ds ≠ [] ∧ (∀ c ∈ ds, (digit? base c).isSome) ∧
      (∀ w ∈ width, ds.length ≤ w) ∧ digitsValue base ds = n ∧ n < bound := by
  obtain ⟨hne, hvalue, hlt, hrest⟩ := eq_of_number? h
  refine ⟨s.takeWhile fun c => (digit? base c).isSome, ?_, hne, fun c hc => ?_, fun w hw => ?_,
    hvalue.symm, hlt⟩
  · have hprefix : (s.takeWhile fun c => (digit? base c).isSome) = _ :=
      List.prefix_iff_eq_take.mp (List.takeWhile_prefix _)
    rw [hrest]
    conv_lhs => rw [← List.take_append_drop _ s, ← hprefix]
  · exact List.mem_takeWhile_imp (p := fun c => (digit? base c).isSome) hc
  · obtain rfl := Option.mem_def.mp hw
    by_contra hlong
    simp [number?, hlong] at h

theorem getD_digit?_lt (hbase : 0 < base) (c : Char) : (digit? base c).getD 0 < base := by
  cases h : digit? base c with
  | none => exact hbase
  | some v =>
    simp only [digit?, Option.ite_none_right_eq_some, Option.some.injEq] at h
    obtain ⟨hlt, rfl⟩ := h
    exact hlt

theorem digitsValue_concat (base : Nat) (ds : List Char) (c : Char) :
    digitsValue base (ds ++ [c]) = digitsValue base ds * base + (digit? base c).getD 0 :=
  List.foldl_append

/-- Digits are worth less than one of the next place. -/
theorem digitsValue_lt (hbase : 0 < base) (ds : List Char) :
    digitsValue base ds < Nat.pow base ds.length := by
  induction ds using List.reverseRecOn with
  | nil => exact Nat.one_pos
  | append_singleton ds c ih =>
    have hdigit := getD_digit?_lt hbase c
    have hpow : Nat.pow base (ds ++ [c]).length = Nat.pow base ds.length * base := by
      rw [List.length_append]
      rfl
    rw [digitsValue_concat, hpow]
    calc digitsValue base ds * base + (digit? base c).getD 0
        < digitsValue base ds * base + base := Nat.add_lt_add_left hdigit _
      _ = (digitsValue base ds + 1) * base := (Nat.succ_mul _ _).symm
      _ ≤ Nat.pow base ds.length * base := Nat.mul_le_mul_right _ ih

/-! ### Decimal numbers -/

theorem isSome_digit?_toDigits {n : Nat} : ∀ c ∈ Nat.toDigits 10 n, (digit? 10 c).isSome := by
  intro c hc
  rw [digit?_of_isDigit (Nat.isDigit_of_mem_toDigits (by decide) (by decide) hc)]
  rfl

theorem not_mem_toDigits (h : digit? 10 c = none) (n : Nat) : c ∉ Nat.toDigits 10 n := by
  intro hc
  have hsome := isSome_digit?_toDigits c hc
  rw [h] at hsome
  cases hsome

theorem digitsValue_toDigits (n : Nat) : digitsValue 10 (Nat.toDigits 10 n) = n :=
  foldl_toDigits n

theorem toDigits_digit {d : Nat} (h : digit? 10 c = some d) : d < 10 ∧ Nat.toDigits 10 d = [c] := by
  have hchar : ∀ d : Fin 10, Nat.toDigits 10 d = [Char.ofNat (48 + d)] := by decide
  simp only [digit?, Option.ite_none_right_eq_some, Option.some.injEq] at h
  obtain ⟨hlt, rfl⟩ := h
  split at hlt
  · rename_i hrange
    have hlow : 48 ≤ c.toNat := hrange.1
    have hcode : 48 + (c.toNat - 48) = c.toNat := by omega
    have hdigits := hchar ⟨c.toNat - 48, hlt⟩
    simp only [hcode, Char.ofNat_toNat] at hdigits
    exact ⟨by rwa [if_pos hrange], by rwa [if_pos hrange]⟩
  · split at hlt
    · rename_i hrange
      have hlow : 97 ≤ c.toNat := hrange.1
      omega
    · split at hlt
      · rename_i hrange
        have hlow : 65 ≤ c.toNat := hrange.1
        omega
      · omega

/-- There is one way to write a number without a superfluous zero. -/
theorem toDigits_digitsValue (hne : ds ≠ []) (hds : ∀ c ∈ ds, (digit? 10 c).isSome)
    (hlead : ds.head? = some '0' → ds.length ≤ 1) : Nat.toDigits 10 (digitsValue 10 ds) = ds := by
  induction ds using List.reverseRecOn with
  | nil => exact absurd rfl hne
  | append_singleton ds c ih =>
    obtain ⟨d, hd⟩ := Option.isSome_iff_exists.mp (hds c (List.mem_append_right ds (by simp)))
    obtain ⟨hlt, hdigit⟩ := toDigits_digit hd
    rw [digitsValue_concat, hd, Option.getD_some]
    rcases List.eq_nil_or_concat ds with rfl | ⟨es, e, rfl⟩
    · rw [digitsValue, List.foldl_nil, Nat.zero_mul, Nat.zero_add, hdigit, List.nil_append]
    · rw [List.concat_eq_append] at *
      have hfront : es ++ [e] ≠ [] := by simp
      have hhead : (es ++ [e]).head? ≠ some '0' := by
        intro hzero
        have hsame : (es ++ [e] ++ [c]).head? = (es ++ [e]).head? :=
          List.head?_append_of_ne_nil _ hfront
        simpa using hlead (hsame.trans hzero)
      have hsame := ih hfront (fun x hx => hds x (List.mem_append_left _ hx))
        fun hzero => absurd hzero hhead
      have hpos : 0 < digitsValue 10 (es ++ [e]) := by
        refine Nat.pos_of_ne_zero fun hzero => hhead ?_
        rw [← hsame, hzero]
        rfl
      rw [Nat.mul_comm, ← Nat.toDigits_append_toDigits (by decide) hpos hlt, hsame, hdigit]

/-- A port is read as it is written. -/
theorem port?_toDigits (port : UInt16) :
    port? (':' :: Nat.toDigits 10 port.toNat) = some (port, []) := by
  have hvalue := digitsValue_toDigits port.toNat
  have hnumber : number? 10 none 65536 (Nat.toDigits 10 port.toNat ++ []) =
      some (digitsValue 10 (Nat.toDigits 10 port.toNat), []) :=
    number?_append Nat.toDigits_ne_nil isSome_digit?_toDigits nofun nofun
      (by rw [hvalue]; exact port.toNat_lt)
  rw [List.append_nil, hvalue] at hnumber
  simp only [port?, char?, if_true, Option.bind_eq_bind, Option.bind_some, hnumber,
    UInt16.ofNat_toNat]
  rfl

/-! ### IPv4 addresses -/

/-- The digits of a byte are at most three and begin with a zero only where it is the whole. -/
theorem toDigits_octet : ∀ a : Fin 256, (Nat.toDigits 10 a).length ≤ 3 ∧
    ((Nat.toDigits 10 a).head? = some '0' → (Nat.toDigits 10 a).length ≤ 1) := by
  decide +kernel

/-- A byte is read as it is written. -/
theorem octet?_toDigits (a : UInt8) (ht : ∀ c ∈ t.head?, ¬ (digit? 10 c).isSome) :
    octet? (Nat.toDigits 10 a.toNat ++ t) = some (a, t) := by
  obtain ⟨hlength, hzero⟩ := toDigits_octet ⟨a.toNat, a.toNat_lt⟩
  have hvalue := digitsValue_toDigits a.toNat
  have hnumber : number? 10 (some 3) 256 (Nat.toDigits 10 a.toNat ++ t) = some (a.toNat, t) := by
    rw [number?_append Nat.toDigits_ne_nil isSome_digit?_toDigits ht
      (fun w hw => Option.some.inj hw ▸ hlength) (by rw [hvalue]; exact a.toNat_lt), hvalue]
  have hhead : (Nat.toDigits 10 a.toNat ++ t).head? = (Nat.toDigits 10 a.toNat).head? :=
    List.head?_append_of_ne_nil _ Nat.toDigits_ne_nil
  have hnot : ¬ ((Nat.toDigits 10 a.toNat ++ t).head? == some '0' &&
      decide (1 < (Nat.toDigits 10 a.toNat ++ t).length - t.length)) = true := by
    rw [hhead, List.length_append, Nat.add_sub_cancel_right, Bool.and_eq_true, beq_iff_eq,
      decide_eq_true_eq]
    exact fun h => absurd (hzero h.1) (Nat.not_le.mpr h.2)
  simp only [octet?, hnumber, Option.bind_eq_bind, Option.bind_some, if_neg hnot,
    UInt8.ofNat_toNat]
  rfl

/-- Only the text of a byte is read as it. -/
theorem eq_of_octet? {a : UInt8} (h : octet? s = some (a, t)) :
    s = Nat.toDigits 10 a.toNat ++ t := by
  obtain ⟨⟨n, r⟩, hnumber, h⟩ := Option.bind_eq_some_iff.mp h
  simp only [Option.ite_none_left_eq_some, Option.pure_def, Option.some.injEq,
    Prod.mk.injEq] at h
  obtain ⟨hlead, rfl, rfl⟩ := h
  obtain ⟨ds, rfl, hne, hds, -, rfl, hlt⟩ := exists_of_number? hnumber
  rw [List.head?_append_of_ne_nil _ hne, List.length_append, Nat.add_sub_cancel_right,
    Bool.and_eq_true, beq_iff_eq, decide_eq_true_eq, not_and, Nat.not_lt] at hlead
  rw [UInt8.toNat_ofNat', Nat.mod_eq_of_lt hlt, toDigits_digitsValue hne hds hlead]

theorem writeOctets_eq (a b c d : UInt8) : writeOctets a b c d =
    Nat.toDigits 10 a.toNat ++ '.' :: (Nat.toDigits 10 b.toNat ++
      '.' :: (Nat.toDigits 10 c.toNat ++ '.' :: Nat.toDigits 10 d.toNat)) := by
  have hbyte : ∀ x : UInt8, (toString x).toList = Nat.toDigits 10 x.toNat :=
    fun x => Nat.toList_repr
  have hpoint : (toString ".").toList = ['.'] := rfl
  simp [writeOctets, hbyte, hpoint]

theorem not_mem_writeOctets (hdigit : digit? 10 c = none) (hpoint : c ≠ '.') (w x y z : UInt8) :
    c ∉ writeOctets w x y z := by
  simp [writeOctets_eq, not_mem_toDigits hdigit, hpoint]

/-- Four bytes are read as they are written. -/
theorem octets?_writeOctets (a b c d : UInt8) (ht : ∀ c ∈ t.head?, ¬ (digit? 10 c).isSome) :
    octets? (writeOctets a b c d ++ t) = some ((a, b, c, d), t) := by
  have hpoint : ∀ s : List Char, ∀ c ∈ ('.' :: s).head?, ¬ (digit? 10 c).isSome := by
    rintro s c ⟨⟩
    decide
  simp only [writeOctets_eq, List.append_assoc, List.cons_append, octets?,
    octet?_toDigits _ (hpoint _), octet?_toDigits _ ht, char?, if_true, Option.bind_eq_bind,
    Option.bind_some]
  rfl

/-- Only the text of four bytes is read as them. -/
theorem eq_of_octets? {a b c d : UInt8} (h : octets? s = some ((a, b, c, d), t)) :
    s = writeOctets a b c d ++ t := by
  obtain ⟨⟨_, s₁⟩, h₁, h⟩ := Option.bind_eq_some_iff.mp h
  obtain ⟨⟨_, s₂⟩, h₂, h⟩ := Option.bind_eq_some_iff.mp h
  obtain ⟨⟨_, s₃⟩, h₃, h⟩ := Option.bind_eq_some_iff.mp h
  obtain ⟨⟨_, s₄⟩, h₄, h⟩ := Option.bind_eq_some_iff.mp h
  obtain ⟨⟨_, s₅⟩, h₅, h⟩ := Option.bind_eq_some_iff.mp h
  obtain ⟨⟨_, s₆⟩, h₆, h⟩ := Option.bind_eq_some_iff.mp h
  obtain ⟨⟨_, s₇⟩, h₇, h⟩ := Option.bind_eq_some_iff.mp h
  cases h
  rw [eq_of_octet? h₁, eq_of_char? h₂, eq_of_octet? h₃, eq_of_char? h₄, eq_of_octet? h₅,
    eq_of_char? h₆, eq_of_octet? h₇, writeOctets_eq]
  simp

/-- No four bytes are read where there is no point before a character of another kind. -/
theorem octets?_eq_none (hds : '.' ∉ ds)
    (ht : ∀ c ∈ t.head?, c ≠ '.' ∧ ¬ (digit? 10 c).isSome) : octets? (ds ++ t) = none := by
  by_contra hsome
  obtain ⟨⟨⟨a, b, c, d⟩, r⟩, hread⟩ := Option.ne_none_iff_exists'.mp hsome
  have hsplit := eq_of_octets? hread
  rw [writeOctets_eq, List.append_assoc, List.cons_append] at hsplit
  -- The digits of the first byte end at a point.
  obtain ⟨v, hds', hv⟩ | ⟨v, rfl, hv⟩ := List.append_eq_append_iff.mp hsplit
  · cases v with
    | nil => exact (ht '.' (by rw [hv]; rfl)).1 rfl
    | cons c v =>
      have hc : c ∈ Nat.toDigits 10 a.toNat := hds' ▸ List.mem_append_right ds List.mem_cons_self
      exact (ht c (by rw [hv]; rfl)).2 (isSome_digit?_toDigits c hc)
  · cases v with
    | nil =>
      rw [List.nil_append] at hv
      exact (ht '.' (by rw [← hv]; rfl)).1 rfl
    | cons c v =>
      obtain ⟨rfl, -⟩ := List.cons.inj hv
      exact hds (List.mem_append_right _ List.mem_cons_self)

/-! ### Runs -/

/-- What may stand behind a run: the end of the address, which is a bracket or the mark of a zone,
or two colons. -/
inductive Closing : List Char → Prop where
  | bracket (t : List Char) : Closing (']' :: t)
  | mark (t : List Char) : Closing ('%' :: t)
  | gap (t : List Char) : Closing (':' :: ':' :: t)

/-- Whether a text begins with a character that is neither a digit nor a point, if it has any. -/
def Stops (s : List Char) : Prop :=
  ∀ c ∈ s.head?, c ≠ '.' ∧ ∀ base, ¬ (digit? base c).isSome

theorem stops_colon (t : List Char) : Stops (':' :: t) := by
  rintro c ⟨⟩
  simp [digit?]

theorem Closing.stops (h : Closing t) : Stops t := by
  cases h with
  | gap t => exact stops_colon _
  | bracket t | mark t =>
    rintro c ⟨⟩
    simp [digit?]

theorem Stops.octets? (h : Stops s) : octets? s = none := by
  rw [← List.nil_append s]
  exact octets?_eq_none List.not_mem_nil fun c hc => ⟨(h c hc).1, (h c hc).2 10⟩

theorem Stops.number? (h : Stops s) (base : Nat) (width : Option Nat) (bound : Nat) :
    number? base width bound s = none :=
  number?_eq_none fun c hc => (h c hc).2 base

theorem stops_written (ht : Stops t) (run : Run) : Stops (run.written false ++ t) := by
  obtain ⟨gs, dotted⟩ := run
  cases gs with
  | cons g gs => exact stops_colon _
  | nil =>
    cases dotted with
    | none => exact ht
    | some q => exact stops_colon _

/-- No group is read at the end of a run. -/
theorem groups_closing (h : Closing t) (limit : Nat) (first : Bool) :
    SocketAddress.groups limit first t = ([], false, t) := by
  cases limit with
  | zero => rfl
  | succ limit =>
    cases first with
    | true => simp [SocketAddress.groups, h.stops.octets?, h.stops.number?]
    | false =>
      cases h with
      | bracket t | mark t => rfl
      | gap t =>
        simp [SocketAddress.groups, char?, (stops_colon t).octets?, (stops_colon t).number?]

/-- A group in its place is read as it is written. -/
theorem groups_group (g : Group) (ht : Stops t) (limit : Nat) (first : Bool) :
    SocketAddress.groups (limit + 1) first (separator first ++ (g.digits ++ t)) =
      (g.value :: (SocketAddress.groups limit false t).1,
        (SocketAddress.groups limit false t).2) := by
  have hpoint : '.' ∉ g.digits := fun hmem => absurd (g.hex '.' hmem) (by decide)
  have hoctets : octets? (g.digits ++ t) = none :=
    octets?_eq_none hpoint fun c hc => ⟨(ht c hc).1, (ht c hc).2 10⟩
  have hbound : digitsValue 16 g.digits < 65536 :=
    (digitsValue_lt (by decide) g.digits).trans_le (Nat.pow_le_pow_right (by decide) g.short)
  have hnumber : number? 16 (some 4) 65536 (g.digits ++ t) =
      some (digitsValue 16 g.digits, t) :=
    number?_append g.nonempty g.hex (fun c hc => (ht c hc).2 16)
      (fun w hw => Option.some.inj hw ▸ g.short) hbound
  cases first <;> simp [SocketAddress.groups, separator, char?, hoctets, hnumber, Group.value]

/-- Four bytes in their place are read as two groups. -/
theorem groups_dotted (a b c d : UInt8) (ht : Stops t) (limit : Nat) (first : Bool) :
    SocketAddress.groups (limit + 2) first (separator first ++ (writeOctets a b c d ++ t)) =
      ([pair a b, pair c d], true, t) := by
  have hoctets := octets?_writeOctets a b c d fun x hx => (ht x hx).2 10
  cases first <;> simp [SocketAddress.groups, separator, char?, hoctets]

/-- **A run** is read as it is written. -/
theorem groups_written (ht : Closing t) (run : Run) {limit : Nat} (first : Bool)
    (h : run.values.length ≤ limit) :
    SocketAddress.groups limit first (run.written first ++ t) =
      (run.values, run.dotted.isSome, t) := by
  obtain ⟨gs, dotted⟩ := run
  induction gs generalizing limit first with
  | nil =>
    cases dotted with
    | none =>
      rw [Run.written_empty]
      exact groups_closing ht limit first
    | some q =>
      obtain ⟨a, b, c, d⟩ := q
      obtain ⟨l, rfl⟩ : ∃ l, limit = l + 2 := Nat.exists_eq_add_of_le' h
      rw [Run.written_dotted, List.append_assoc]
      exact groups_dotted a b c d ht.stops l first
  | cons g gs ih =>
    have hlength : (Run.mk (g :: gs) dotted).values.length =
        (Run.mk gs dotted).values.length + 1 := rfl
    obtain ⟨l, rfl⟩ : ∃ l, limit = l + 1 := Nat.exists_eq_add_of_le' (by omega)
    rw [Run.written_cons, List.append_assoc, List.append_assoc,
      groups_group g (stops_written ht.stops _), ih false (by omega)]
    rfl

/-- Only the digits of a group are read as it. -/
theorem exists_of_group? {n : Nat} (h : number? 16 (some 4) 65536 s = some (n, t)) :
    ∃ g : Group, s = g.digits ++ t ∧ g.value = UInt16.ofNat n := by
  obtain ⟨ds, rfl, hne, hds, hwidth, rfl, -⟩ := exists_of_number? h
  exact ⟨⟨ds, hne, hwidth 4 rfl, hds⟩, rfl, rfl⟩

/-- A run that is what was read in its place, where at most `limit` groups may stand. -/
structure Reads (limit : Nat) (first : Bool) (s : List Char)
    (x : List UInt16 × Bool × List Char) (run : Run) : Prop where
  text : s = run.written first ++ x.2.2
  values : run.values = x.1
  dotted : run.dotted.isSome = x.2.1
  length : run.values.length ≤ limit

theorem reads_nothing (limit : Nat) (first : Bool) (s : List Char) :
    Reads limit first s ([], false, s) ⟨[], none⟩ where
  text := by rw [Run.written_empty, List.nil_append]
  values := rfl
  dotted := rfl
  length := Nat.zero_le limit

/-- Only the text of a run is read as its groups. -/
theorem exists_reads (limit : Nat) (first : Bool) (s : List Char) :
    ∃ run, Reads limit first s (SocketAddress.groups limit first s) run := by
  induction limit generalizing first s with
  | zero => exact ⟨_, reads_nothing 0 first s⟩
  | succ limit ih =>
    have hplace : ∀ s', (if first then some s else (char? ':' s).map (·.2)) = some s' →
        s = separator first ++ s' := by
      intro s' hs'
      cases first with
      | true => exact Option.some.inj hs'
      | false =>
        obtain ⟨⟨u, r⟩, hcolon, rfl⟩ := Option.map_eq_some_iff.mp hs'
        exact eq_of_char? hcolon
    rw [SocketAddress.groups]
    dsimp only
    split
    · exact ⟨_, reads_nothing (limit + 1) first s⟩
    · rename_i s' hs'
      obtain rfl := hplace s' hs'
      split
      · rename_i a b c d r hoctets
        obtain ⟨hlimit, hread⟩ := Option.ite_none_right_eq_some.mp hoctets
        refine ⟨⟨[], some (a, b, c, d)⟩, ?_, rfl, rfl, Nat.succ_le_succ hlimit⟩
        rw [Run.written_dotted, eq_of_octets? hread, List.append_assoc]
      · split
        · rename_i n r hnumber
          obtain ⟨g, rfl, hvalue⟩ := exists_of_group? hnumber
          obtain ⟨⟨gs, dotted⟩, hrest⟩ := ih false r
          refine ⟨⟨g :: gs, dotted⟩, ?_, ?_, hrest.dotted, Nat.succ_le_succ hrest.length⟩
          · rw [Run.written_cons, List.append_assoc, List.append_assoc, ← hrest.text]
          · rw [← hvalue, ← hrest.values]
            rfl
        · exact ⟨_, reads_nothing (limit + 1) first _⟩

/-! ### IPv6 addresses -/

/-- The groups of an address are read as they are written. -/
theorem groups?_text (l : Literal) (ht : Closing t) :
    groups? (l.text ++ t) = some (l.groups, t) := by
  cases l with
  | full run h =>
    have hread := groups_written ht run true (Nat.le_of_eq h)
    rw [Run.written_true] at hread
    simp only [groups?, Literal.text, hread, h, if_true]
    rfl
  | short front back h =>
    have hvalues : (Run.mk front none).values = front.map Group.value := List.append_nil _
    have hfront := groups_written (.gap (back.text ++ t)) ⟨front, none⟩ true
      (show _ ≤ 8 by rw [hvalues, List.length_map]; omega)
    have hback := groups_written ht back true (show _ ≤ 7 - front.length by omega)
    rw [Run.written_true] at hfront hback
    rw [hvalues] at hfront
    have hshort : ¬ front.length = 8 := by omega
    simp [groups?, Literal.text, Literal.groups, hfront, hback, char?, hshort]

/-- Only the text of an address is read as its groups. -/
theorem exists_of_groups? {gs : List UInt16} (h : groups? s = some (gs, t)) :
    ∃ l : Literal, s = l.text ++ t ∧ l.groups = gs := by
  obtain ⟨⟨front, dotted⟩, hfront⟩ := exists_reads 8 true s
  rw [groups?] at h
  generalize SocketAddress.groups 8 true s = x at h hfront
  obtain ⟨vs, isDotted, r⟩ := x
  obtain ⟨htext, rfl, rfl, hlength⟩ := hfront
  dsimp only at h htext
  split at h
  · rename_i hfull
    cases h
    exact ⟨.full ⟨front, dotted⟩ hfull, htext, rfl⟩
  · rename_i hshort
    cases dotted with
    | some q => cases h
    | none =>
      obtain ⟨⟨u, r₁⟩, h₁, h⟩ := Option.bind_eq_some_iff.mp h
      obtain ⟨⟨v, r₂⟩, h₂, h⟩ := Option.bind_eq_some_iff.mp h
      obtain rfl := eq_of_char? h₁
      obtain rfl := eq_of_char? h₂
      have hvalues : (Run.mk front none).values = front.map Group.value := List.append_nil _
      rw [hvalues, List.length_map] at h hlength hshort
      obtain ⟨back, hback⟩ := exists_reads (7 - front.length) true r₂
      have hlength' := hback.length
      cases h
      refine ⟨.short front back (by omega), ?_, ?_⟩
      · rw [htext, Literal.text, List.append_assoc, List.cons_append, List.cons_append,
          ← Run.written_true back, ← hback.text]
        rfl
      · rw [← hback.values]
        rfl

/-- What marks a zone behind the groups of an address. -/
inductive Marks : List Char → UInt32 → Prop where
  | none : Marks [] 0
  | number {ds : List Char} (hne : ds ≠ []) (hds : ∀ c ∈ ds, (digit? 10 c).isSome)
      (hbound : digitsValue 10 ds < Number.word32) :
      Marks ('%' :: ds) (UInt32.ofNat (digitsValue 10 ds))

/-- A zone is read as it is marked. -/
theorem zone_mark {mark : List Char} {z : UInt32} (h : Marks mark z) :
    zone (mark ++ ']' :: t) = (z, ']' :: t) := by
  cases h with
  | none => rfl
  | @number ds hne hds hbound =>
    have hstop : ∀ c ∈ (']' :: t).head?, ¬ (digit? 10 c).isSome := by
      rintro c ⟨⟩
      decide
    have hnumber : number? 10 none Number.word32 (ds ++ ']' :: t) =
        some (digitsValue 10 ds, ']' :: t) :=
      number?_append hne hds hstop nofun hbound
    rw [List.cons_append, zone, hnumber]

theorem exists_of_zone {z : UInt32} (h : zone s = (z, ']' :: t)) :
    ∃ mark, Marks mark z ∧ s = mark ++ ']' :: t := by
  rw [zone.eq_def] at h
  split at h
  · split at h
    · rename_i n r hnumber
      cases h
      obtain ⟨ds, rfl, hne, hds, -, rfl, hbound⟩ := exists_of_number? hnumber
      exact ⟨_, .number hne hds hbound, rfl⟩
    · cases h
  · cases h
    exact ⟨[], .none, rfl⟩

/-! ### Addresses in front of a port -/

/-- The texts that stand for an address in front of a port. -/
inductive Spells : List Char → Ip → Prop where
  | v4 (a b c d : UInt8) : Spells (writeOctets a b c d) (.v4 a b c d)
  | v6 (l : Literal) {mark : List Char} {z : UInt32} (h : Marks mark z) :
      Spells ('[' :: (l.text ++ (mark ++ [']']))) (.v6 l.groups z)

theorem Marks.closing {mark : List Char} {z : UInt32} (h : Marks mark z) :
    Closing (mark ++ ']' :: t) := by
  cases h with
  | none => exact .bracket t
  | number => exact .mark _

/-- An address is read as it is spelled. -/
theorem ofText?_of_spells {host : List Char} {ip : Ip} (h : Spells host ip) (port : UInt16) :
    ofText? (host ++ ':' :: Nat.toDigits 10 port.toNat) = some ⟨ip, port⟩ := by
  cases h with
  | v4 a b c d =>
    have hcolon : ∀ c ∈ (':' :: Nat.toDigits 10 port.toNat).head?, ¬ (digit? 10 c).isSome := by
      rintro c ⟨⟩
      decide
    simp only [ofText?, v4?, octets?_writeOctets a b c d hcolon, port?_toDigits,
      Option.bind_eq_bind, Option.bind_some]
    rfl
  | @v6 l mark z hmark =>
    have hv4 : ∀ s, octets? ('[' :: s) = none := by
      refine fun s => Stops.octets? ?_
      rintro c ⟨⟩
      simp [digit?]
    simp [ofText?, v4?, v6?, hv4, char?, groups?_text l hmark.closing, zone_mark hmark,
      port?_toDigits]

theorem exists_of_v4? {a : SocketAddress} (h : v4? s = some (a, t)) :
    ∃ host r, s = host ++ r ∧ Spells host a.ip ∧ port? r = some (a.port, t) := by
  obtain ⟨⟨⟨w, x, y, z⟩, r⟩, hoctets, h⟩ := Option.bind_eq_some_iff.mp h
  obtain ⟨⟨p, r'⟩, hport, h⟩ := Option.bind_eq_some_iff.mp h
  cases h
  exact ⟨_, r, eq_of_octets? hoctets, .v4 w x y z, hport⟩

theorem exists_of_v6? {a : SocketAddress} (h : v6? s = some (a, t)) :
    ∃ host r, s = host ++ r ∧ Spells host a.ip ∧ port? r = some (a.port, t) := by
  obtain ⟨⟨u, r₁⟩, hopen, h⟩ := Option.bind_eq_some_iff.mp h
  obtain ⟨⟨gs, r₂⟩, hgroups, h⟩ := Option.bind_eq_some_iff.mp h
  obtain ⟨⟨v, r₃⟩, hclose, h⟩ := Option.bind_eq_some_iff.mp h
  obtain ⟨⟨p, r₄⟩, hport, h⟩ := Option.bind_eq_some_iff.mp h
  cases h
  obtain rfl := eq_of_char? hopen
  obtain ⟨l, rfl, rfl⟩ := exists_of_groups? hgroups
  obtain ⟨mark, hmark, rfl⟩ := exists_of_zone (Prod.ext rfl (eq_of_char? hclose))
  exact ⟨_, r₃, by simp, .v6 l hmark, hport⟩

/-- Nothing but what spells an address is read as it. -/
theorem spells_of_ofText? {host : List Char} {port : UInt16} {a : SocketAddress}
    (h : ofText? (host ++ ':' :: Nat.toDigits 10 port.toNat) = some a) : Spells host a.ip := by
  obtain ⟨front, r, hsplit, hspells, hport⟩ : ∃ front r,
      host ++ ':' :: Nat.toDigits 10 port.toNat = front ++ r ∧ Spells front a.ip ∧
        port? r = some (a.port, []) := by
    rw [ofText?] at h
    split at h
    · rename_i b hb
      obtain rfl := Option.some.inj h
      rw [Option.orElse_eq_orElse, Option.orElse_eq_or, Option.or_eq_some_iff] at hb
      obtain hv4 | ⟨-, hv6⟩ := hb
      · exact exists_of_v4? hv4
      · exact exists_of_v6? hv6
    · cases h
  obtain ⟨ds, rfl, hdigits, -⟩ := eq_of_port? hport
  have hds : ':' ∉ ds := fun hc => not_isSome_digit?_colon (hdigits _ hc)
  rw [eq_of_append_colon (not_mem_toDigits (by decide) port.toNat) hds hsplit] at hsplit
  exact List.append_cancel_right hsplit ▸ hspells

/-- **An address in front of a port** is read exactly where it is spelled. -/
theorem ofText?_iff {host : List Char} {port : UInt16} {a : SocketAddress} :
    ofText? (host ++ ':' :: Nat.toDigits 10 port.toNat) = some a ↔
      Spells host a.ip ∧ a.port = port := by
  refine ⟨fun h => ⟨spells_of_ofText? h, port_of_ofText? h⟩, ?_⟩
  rintro ⟨h, rfl⟩
  exact ofText?_of_spells h a.port

end SocketAddress

/-! ### IPv6 addresses without brackets -/

/-- A run consists of hexadecimal digits, points and colons. -/
theorem Run.not_mem_written {c : Char} (run : Run)
    (hdigit : ∀ base, base ≤ 16 → digit? base c = none) (hpoint : c ≠ '.') (hcolon : c ≠ ':')
    (first : Bool) : c ∉ run.written first := by
  have hseparator : ∀ first, c ∉ separator first := by
    intro first
    cases first <;> simp [separator, hcolon]
  obtain ⟨gs, dotted⟩ := run
  induction gs generalizing first with
  | nil =>
    cases dotted with
    | none => simp [written_empty]
    | some q =>
      have hoctets := not_mem_writeOctets (hdigit 10 (by decide)) hpoint q.1 q.2.1 q.2.2.1 q.2.2.2
      rw [written_dotted, List.mem_append, not_or]
      exact ⟨hseparator first, hoctets⟩
  | cons g gs ih =>
    have hgroup : c ∉ g.digits := by
      intro hc
      have hsome := g.hex c hc
      rw [hdigit 16 (by decide)] at hsome
      cases hsome
    rw [written_cons, List.mem_append, List.mem_append, not_or, not_or]
    exact ⟨hseparator first, hgroup, ih false⟩

theorem Run.colon_mem_written {run : Run} (h : run.values ≠ []) : ':' ∈ run.written false := by
  obtain ⟨gs, dotted⟩ := run
  cases gs with
  | cons g gs => exact List.mem_cons_self
  | nil =>
    cases dotted with
    | none => exact absurd rfl h
    | some q => exact List.mem_cons_self

/-- There is a colon in the text of an address. -/
theorem Literal.colon_mem (l : Literal) : ':' ∈ l.text := by
  cases l with
  | short front back h => simp [text]
  | full run h =>
    obtain ⟨gs, dotted⟩ := run
    cases gs with
    | nil => cases dotted <;> cases h
    | cons g gs =>
      have hlength : (Run.mk gs dotted).values.length + 1 = 8 := h
      have hne : (Run.mk gs dotted).values ≠ [] := by
        intro hnil
        rw [hnil] at hlength
        cases hlength
      rw [text, ← Run.written_true, Run.written_cons]
      exact List.mem_append_right _ (List.mem_append_right _ (Run.colon_mem_written hne))

theorem Literal.bracket_not_mem (l : Literal) : '[' ∉ l.text := by
  have hrun : ∀ run : Run, '[' ∉ run.text := fun run =>
    run.not_mem_written (fun base hbase => by simp [digit?]) (by decide) (by decide) true
  cases l with
  | full run h => exact hrun run
  | short front back h => simp [text, hrun]

/-- An IPv6 address without its brackets spells nothing. -/
theorem Literal.not_spells (l : Literal) (ip : Ip) : ¬ Spells l.text ip := by
  have hbracket := l.bracket_not_mem
  have hcolon := l.colon_mem
  intro h
  generalize l.text = host at h hbracket hcolon
  cases h with
  | v4 a b c d => exact not_mem_writeOctets (by decide) (by decide) a b c d hcolon
  | v6 => exact hbracket List.mem_cons_self

end LogIntake.Net
