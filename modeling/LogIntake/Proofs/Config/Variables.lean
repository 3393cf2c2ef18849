import LogIntake.Config.Variables
import LogIntake.Text.Digits
import Mathlib.Data.Nat.Basic

/-!
# Values of variables

A variable that is to be a number or a truth value has a **kind**, which says what its text may be
(`Kind.Admits`), independently of how the text is read. Reading succeeds exactly on what the kind
admits, so loading anything from a variable whose text is neither blank nor admitted is an error.
-/

namespace LogIntake.Config

/-! ### Steps of loading -/

section Except

variable {α β ε ε' : Type}

/-- Two steps succeed where the first does and then the second. -/
theorem bind_eq_ok {x : Except ε α} {f : α → Except ε β} {b : β} :
    x >>= f = .ok b ↔ ∃ a, x = .ok a ∧ f a = .ok b := by
  cases x with
  | error e => exact ⟨nofun, fun ⟨_, ha, _⟩ => nomatch ha⟩
  | ok a => exact ⟨fun h => ⟨a, rfl, h⟩, fun ⟨_, ha, hb⟩ => Except.ok.inj ha ▸ hb⟩

end Except

/-! ### Numbers -/

/-- A number only grows when digits are put behind it. -/
theorem le_foldl_digits (v : Nat) (ds : List Char) :
    v ≤ ds.foldl (fun n c => n * 10 + (c.toNat - 48)) v := by
  induction ds generalizing v with
  | nil => exact Nat.le_refl v
  | cons c ds ih =>
    have hstep : v ≤ v * 10 + (c.toNat - 48) := by omega
    exact Nat.le_trans hstep (ih _)

/-- Digits are read onto a number as the number that they continue, if it stays below the bound. -/
theorem readDigits_eq_ok {bound v n : Nat} {ds : List Char} :
    readDigits bound v ds = .ok n ↔
      (∀ c ∈ ds, c.isDigit) ∧ ds.foldl (fun n c => n * 10 + (c.toNat - 48)) v = n ∧
        (ds ≠ [] → n < bound) := by
  induction ds generalizing v with
  | nil => simp [readDigits]
  | cons c rest ih =>
    simp only [readDigits, List.forall_mem_cons, List.foldl_cons]
    have hgrows := le_foldl_digits (v * 10 + (c.toNat - 48)) rest
    by_cases hc : c.isDigit
    · simp only [hc, Bool.not_true, Bool.false_eq_true, if_false, true_and, ne_eq,
        reduceCtorEq, not_false_eq_true, forall_const]
      split
      · rename_i hlt
        rw [ih]
        constructor
        · rintro ⟨hds, hn, hb⟩
          refine ⟨hds, hn, ?_⟩
          by_cases hr : rest = []
          · subst hr
            exact hn ▸ hlt
          · exact hb hr
        · rintro ⟨hds, hn, hb⟩
          exact ⟨hds, hn, fun _ => hb⟩
      · simp only [reduceCtorEq, false_iff, not_and]
        intro _ hn
        omega
    · simp [hc]

/-- A number below a bound is read from digits, which may have a plus sign in front of them. -/
theorem readNat_eq_ok {bound n : Nat} {s : String} :
    readNat bound s = .ok n ↔ ∃ ds, (s.toList = ds ∨ s.toList = '+' :: ds) ∧ ds ≠ [] ∧
      (∀ c ∈ ds, c.isDigit) ∧ Text.digitsValue ds = n ∧ n < bound := by
  have plus : ¬ '+'.isDigit := by decide
  rw [readNat.eq_def]
  split
  · rename_i h
    simp [h]
  · rename_i h
    simp [h, plus]
  · rename_i ds hds h
    rw [readDigits_eq_ok]
    constructor
    · rintro ⟨hdigits, hn, hb⟩
      exact ⟨ds, .inr h, hds, hdigits, hn, hb hds⟩
    · rintro ⟨es, hes | hes, -, hdigits, hn, hb⟩
      · exact absurd (hdigits '+' (hes ▸ h ▸ List.mem_cons_self)) plus
      · obtain rfl : ds = es := (List.cons.inj (h.symm.trans hes)).2
        exact ⟨hdigits, hn, fun _ => hb⟩
  · rename_i hnil hone hplus
    rw [readDigits_eq_ok]
    constructor
    · rintro ⟨hdigits, hn, hb⟩
      exact ⟨s.toList, .inl rfl, hnil, hdigits, hn, hb hnil⟩
    · rintro ⟨es, rfl | hes, -, hdigits, hn, hb⟩
      · exact ⟨hdigits, hn, fun _ => hb⟩
      · exact absurd hes (hplus es)

/-! ### Kinds of variables -/

/-- What the value of a variable stands for. -/
inductive Kind where
  /-- A natural number below a bound. -/
  | number (bound : Nat)
  | truth
  | single

namespace Kind

/-- Whether a text without blanks around it stands for a value. -/
def Admits : Kind → String → Prop
  | number bound, s => ∃ ds, (s.toList = ds ∨ s.toList = '+' :: ds) ∧ ds ≠ [] ∧
      (∀ c ∈ ds, c.isDigit) ∧ Text.digitsValue ds < bound
  | truth, s => s = "true" ∨ s = "false"
  | single, s => (Number.Single.read? s).isSome

theorem admits_of_readNat {bound n : Nat} {s : String} (h : readNat bound s = .ok n) :
    (number bound).Admits s := by
  obtain ⟨ds, hs, hne, hdigits, rfl, hlt⟩ := readNat_eq_ok.mp h
  exact ⟨ds, hs, hne, hdigits, hlt⟩

theorem admits_of_readBool {b : Bool} {s : String} (h : readBool s = .ok b) : truth.Admits s := by
  rw [readBool.eq_def] at h
  split at h
  · exact .inl rfl
  · exact .inr rfl
  · cases h

theorem admits_of_readSingle {x : Number.Single} {s : String} (h : readSingle s = .ok x) :
    single.Admits s := by
  rw [readSingle] at h
  split at h
  · rename_i y hy
    exact Option.isSome_iff_exists.mpr ⟨y, hy⟩
  · cases h

end Kind

/-! ### Variables that are read -/

namespace Variables

variable {α : Type} {vars : Variables} {key : String}

/-- The text of a variable, where it is set and not blank, is one of a kind. -/
def Fits (vars : Variables) (key : String) (kind : Kind) : Prop :=
  ∀ raw, vars.text? key = some raw → ¬ Text.isBlankText raw → kind.Admits (Text.trim raw)

/-- What is read from a variable is the default or what its text stands for. -/
theorem readOr_eq_ok {read : String → Except String α} {default a : α}
    (h : vars.readOr key read default = .ok a) :
    (vars.nonBlank? key = none ∧ a = default) ∨
      ∃ raw, vars.nonBlank? key = some raw ∧ read (Text.trim raw) = .ok a := by
  rw [readOr] at h
  split at h
  · rename_i hnone
    exact .inl ⟨hnone, (Except.ok.inj h).symm⟩
  · rename_i raw hraw
    split at h
    · rename_i b hb
      obtain rfl := Except.ok.inj h
      exact .inr ⟨raw, hraw, hb⟩
    · cases h

/-- A variable that something was read from fits the kind of what is read. -/
theorem fits_of_readOr {read : String → Except String α} {default a : α} {kind : Kind}
    (hread : ∀ {s b}, read s = .ok b → kind.Admits s)
    (h : vars.readOr key read default = .ok a) : vars.Fits key kind := by
  intro raw hset hblank
  have hset : vars.nonBlank? key = some raw :=
    Option.filter_eq_some_iff.mpr ⟨hset, by simpa using hblank⟩
  obtain ⟨hnone, -⟩ | ⟨raw', hraw, hok⟩ := readOr_eq_ok h
  · exact absurd (hset.symm.trans hnone) (by simp)
  · obtain rfl : raw = raw' := Option.some.inj (hset.symm.trans hraw)
    exact hread hok

variable {bound default n : Nat}

theorem fits_of_natOr (h : vars.natOr key bound default = .ok n) : vars.Fits key (.number bound) :=
  fits_of_readOr Kind.admits_of_readNat h

/-- A number is the default or below the bound. -/
theorem eq_or_lt_of_natOr (h : vars.natOr key bound default = .ok n) :
    n = default ∨ n < bound := by
  obtain ⟨-, rfl⟩ | ⟨raw, -, hraw⟩ := readOr_eq_ok h
  · exact .inl rfl
  · obtain ⟨ds, -, -, -, -, hlt⟩ := readNat_eq_ok.mp hraw
    exact .inr hlt

/-- A number that must not be zero is read as any other, and is not. -/
theorem positiveOr_eq_ok :
    vars.positiveOr key bound default = .ok n ↔ vars.natOr key bound default = .ok n ∧ 1 ≤ n := by
  rw [positiveOr, bind_eq_ok]
  constructor
  · rintro ⟨m, hm, h⟩
    split at h
    · cases h
    · rename_i hle
      obtain rfl := Except.ok.inj h
      exact ⟨hm, Nat.not_lt.mp hle⟩
  · rintro ⟨h, hle⟩
    exact ⟨n, h, if_neg (Nat.not_lt.mpr hle)⟩

theorem fits_of_positiveOr (h : vars.positiveOr key bound default = .ok n) :
    vars.Fits key (.number bound) :=
  fits_of_natOr (positiveOr_eq_ok.mp h).1

end Variables

end LogIntake.Config
