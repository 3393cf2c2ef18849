import LogIntake.Text.Digits
import Mathlib.Data.List.Basic
import Mathlib.Data.List.TakeWhile
import Mathlib.Tactic.Ring

/-!
# Padded numbers

A padded number is a run of digits whose value is the number, and it is as wide as it is said to be
unless the number needs more digits. So who reads as many digits reads the number.
-/

namespace LogIntake.Text

variable {width n : Nat}

theorem digitsValue_eq_ofDigitChars (ds : List Char) :
    digitsValue ds = Nat.ofDigitChars 10 ds 0 := by
  rw [digitsValue, Nat.ofDigitChars]
  congr
  funext m c
  rw [Nat.mul_comm]
  rfl

/-- Digits are read onto a value as the number behind it. -/
theorem foldl_digitsValue (v : Nat) (ds : List Char) :
    ds.foldl (fun n c => n * 10 + (c.toNat - 48)) v =
      v * Nat.pow 10 ds.length + digitsValue ds := by
  induction ds generalizing v with
  | nil => exact (Nat.mul_one v).symm
  | cons c ds ih =>
    rw [digitsValue, List.foldl_cons, List.foldl_cons, ih, ih (0 * 10 + _), List.length_cons,
      show Nat.pow 10 (ds.length + 1) = Nat.pow 10 ds.length * 10 from rfl]
    ring

/-- The value of digits with further digits behind them. -/
theorem digitsValue_append (ds es : List Char) :
    digitsValue (ds ++ es) = digitsValue ds * Nat.pow 10 es.length + digitsValue es := by
  rw [digitsValue, List.foldl_append, foldl_digitsValue]
  rfl

theorem digitsValue_cons (c : Char) (ds : List Char) :
    digitsValue (c :: ds) = (c.toNat - 48) * Nat.pow 10 ds.length + digitsValue ds := by
  rw [digitsValue, List.foldl_cons, foldl_digitsValue, Nat.zero_mul, Nat.zero_add]

/-- Digits are worth less than one of the next place. -/
theorem digitsValue_lt {ds : List Char} (h : ∀ c ∈ ds, c.isDigit) :
    digitsValue ds < Nat.pow 10 ds.length := by
  induction ds with
  | nil => exact Nat.one_pos
  | cons c ds ih =>
    obtain ⟨hc, hds⟩ := List.forall_mem_cons.mp h
    have hdigit : c.toNat - 48 ≤ 9 := by
      rw [Char.isDigit, Bool.and_eq_true, decide_eq_true_eq, decide_eq_true_eq] at hc
      have hhigh : c.toNat ≤ 57 := hc.2
      omega
    calc digitsValue (c :: ds)
        = (c.toNat - 48) * Nat.pow 10 ds.length + digitsValue ds := digitsValue_cons c ds
      _ < (c.toNat - 48) * Nat.pow 10 ds.length + Nat.pow 10 ds.length :=
          Nat.add_lt_add_left (ih hds) _
      _ = (c.toNat - 48 + 1) * Nat.pow 10 ds.length := (Nat.succ_mul _ _).symm
      _ ≤ 10 * Nat.pow 10 ds.length := Nat.mul_le_mul_right _ (by omega)
      _ = Nat.pow 10 (c :: ds).length := Nat.mul_comm _ _

/-- The value of a padded number. -/
@[simp]
theorem digitsValue_padded : digitsValue (padded width n) = n := by
  rw [digitsValue_eq_ofDigitChars, padded, Nat.ofDigitChars_append, Nat.ofDigitChars_replicate_zero,
    Nat.mul_zero, Nat.ofDigitChars_ten_toDigits]

/-- A padded number consists of digits. -/
theorem isDigit_of_mem_padded {c : Char} (h : c ∈ padded width n) : c.isDigit := by
  rcases List.mem_append.mp h with h | h
  · rw [List.eq_of_mem_replicate h]
    decide
  · exact Nat.isDigit_of_mem_toDigits (by decide) (by decide) h

/-- A number below a power of ten fits into as many digits. -/
theorem length_padded (hwidth : 0 < width) (h : n < Nat.pow 10 width) :
    (padded width n).length = width := by
  have hle := (Nat.length_toDigits_le_iff (b := 10) (by decide) hwidth).mpr h
  rw [padded, List.length_append, List.length_replicate, Nat.sub_add_cancel hle]

theorem padded_ne_nil : padded width n ≠ [] :=
  List.append_ne_nil_of_right_ne_nil _ Nat.toDigits_ne_nil

/-- A padded number begins with a digit. -/
theorem isDigit_head?_padded {r : List Char} {c : Char} (h : c ∈ (padded width n ++ r).head?) :
    c.isDigit := by
  rw [List.head?_append_of_ne_nil _ padded_ne_nil] at h
  exact isDigit_of_mem_padded (List.mem_of_mem_head? h)

/-- A text with digits at its end ends with a digit. -/
theorem isDigit_getLast?_append {s ds : List Char} (hne : ds ≠ []) (hds : ∀ c ∈ ds, c.isDigit)
    {c : Char} (h : c ∈ (s ++ ds).getLast?) : c.isDigit := by
  rw [List.getLast?_append_of_ne_nil _ hne] at h
  exact hds c (List.mem_of_getLast? h)

/-- Of digits with another character behind them, the digits at the front are all there are. -/
theorem takeWhile_append_of_head? {p : Char → Bool} {ds r : List Char} (hds : ∀ c ∈ ds, p c)
    (hr : ∀ c ∈ r.head?, ¬ p c) : (ds ++ r).takeWhile p = ds := by
  rw [List.takeWhile_append_of_pos hds]
  cases r with
  | nil => exact List.append_nil _
  | cons c r => rw [List.takeWhile_cons_of_neg (hr c rfl), List.append_nil]

end LogIntake.Text
