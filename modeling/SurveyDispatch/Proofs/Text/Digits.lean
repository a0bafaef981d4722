import Mathlib.Data.List.Induction
import Mathlib.Data.List.TakeWhile
import Mathlib.Data.Nat.Digits.Defs
import Mathlib.Data.String.Basic
import SurveyDispatch.Text.Digits

/-!
# Runs of digits

What is written as digits is read back as the same number, also behind leading zeros
(`Digits.value_write`, `Digits.value_writePadded`).  Digits are taken off the front of a text up to
the first character that is none (`Digits.split_append`).  A run of digits takes as many bytes as it
has digits (`Digits.utf8Len_of_isDigit`).
-/

namespace SurveyDispatch.Digits

/-! ## Taking digits off a text -/

theorem split_of_isDigit {ds : List Char} (h : ∀ c ∈ ds, c.isDigit = true) :
    split ds = (ds, []) := by
  have whole : ds.takeWhile Char.isDigit = ds := List.takeWhile_eq_self_iff.mpr h
  have none : ds.dropWhile Char.isDigit = [] := List.dropWhile_eq_nil_iff.mpr h
  rw [split, whole, none]

theorem split_append {ds : List Char} (digits : ∀ d ∈ ds, d.isDigit = true) {c : Char}
    (hc : c.isDigit = false) (rest : List Char) : split (ds ++ c :: rest) = (ds, c :: rest) := by
  have stop : ¬ c.isDigit = true := by rw [hc]; exact Bool.false_ne_true
  rw [split, List.takeWhile_append_of_pos digits, List.dropWhile_append_of_pos digits,
    List.takeWhile_cons_of_neg stop, List.dropWhile_cons_of_neg stop, List.append_nil]

/-- Digits are taken off up to the first character that is none. -/
theorem split_append_of_stops {ds rest : List Char} (digits : ∀ d ∈ ds, d.isDigit = true)
    (stops : ∀ c ∈ rest.head?, c.isDigit = false) : split (ds ++ rest) = (ds, rest) := by
  cases rest with
  | nil => rw [List.append_nil, split_of_isDigit digits]
  | cons c rest => exact split_append digits (stops c rfl) rest

theorem of_split {cs ds rest : List Char} (h : split cs = (ds, rest)) :
    cs = ds ++ rest ∧ ∀ d ∈ ds, d.isDigit = true := by
  cases h
  exact ⟨List.takeWhile_append_dropWhile.symm, fun d mem => List.mem_takeWhile_imp mem⟩

theorem value?_eq_some_iff {ds : List Char} {n : Nat} :
    value? ds = some n ↔ ds ≠ [] ∧ (∀ c ∈ ds, c.isDigit = true) ∧ value ds = n := by
  rw [value?, Option.ite_none_right_eq_some, List.all_eq_true, Option.some.injEq, and_assoc]

theorem isDigit_of_value? {ds : List Char} {n : Nat} (h : value? ds = some n) :
    ∀ c ∈ ds, c.isDigit = true := (value?_eq_some_iff.mp h).2.1

/-! ## Writing numbers -/

theorem isDigit_of_mem_write {n : Nat} {c : Char} (h : c ∈ write n) : c.isDigit = true :=
  Nat.isDigit_of_mem_toDigits (by decide) (by decide) h

theorem write_eq_cons {n : Nat} (h : 0 < n) : ∃ c cs, write n = c :: cs ∧ c ≠ '0' := by
  induction n using Nat.strongRecOn with
  | ind n ih =>
    by_cases small : n < 10
    · have all : ∀ d < 10, 0 < d → Nat.digitChar d ≠ '0' := by decide
      exact ⟨_, [], Nat.toDigits_of_lt_base small, all n small h⟩
    · obtain ⟨c, cs, front, ne⟩ := ih (n / 10) (by omega) (by omega)
      refine ⟨c, cs ++ [Nat.digitChar (n % 10)], ?_, ne⟩
      unfold write at front ⊢
      rw [Nat.toDigits_of_base_le (by decide) (by omega), front, List.cons_append]

theorem isDigit_of_mem_writePadded {width n : Nat} {c : Char} (h : c ∈ writePadded width n) :
    c.isDigit = true := by
  rcases List.mem_append.mp h with filling | written
  · rw [(List.mem_replicate.mp filling).2]
    rfl
  · exact isDigit_of_mem_write written

/-- A padded number is as long as the width, or as long as its digits if there are more. -/
theorem length_writePadded (width n : Nat) :
    (writePadded width n).length = max width (write n).length := by
  rw [writePadded, List.length_append, List.length_replicate]
  omega

/-! ## The number of digits -/

theorem value_write (n : Nat) : value (write n) = n := Nat.ofDigitChars_ten_toDigits

/-- Leading zeros do not change a number. -/
theorem value_writePadded (width n : Nat) : value (writePadded width n) = n := by
  rw [writePadded, value, Nat.ofDigitChars_append, Nat.ofDigitChars_replicate_zero, Nat.mul_zero]
  exact value_write n

/-- A number lies below the power of ten that its digits give. -/
theorem value_lt {ds : List Char} (digits : ∀ d ∈ ds, d.isDigit = true) :
    value ds < 10 ^ ds.length := by
  induction ds using List.reverseRecOn with
  | nil => decide
  | append_singleton ds c ih =>
    have front := ih fun d mem => digits d (List.mem_append_left _ mem)
    have last : c.toNat - '0'.toNat < 10 := by
      have bounds := Char.isDigit_iff_toNat.mp (digits c (by simp))
      have nine : '9'.toNat = '0'.toNat + 9 := rfl
      omega
    have unfolded : value (ds ++ [c]) = 10 * value ds + (c.toNat - '0'.toNat) :=
      Nat.ofDigitChars_append 0
    rw [unfolded, List.length_append, List.length_singleton, Nat.pow_succ]
    omega

/-- A smaller number has no more digits. -/
theorem length_write_le {n : Nat} {ds : List Char} (digits : ∀ d ∈ ds, d.isDigit = true)
    (h : n < value ds) : (write n).length ≤ ds.length := by
  have nonempty : ds ≠ [] := by
    rintro rfl
    exact absurd h (Nat.not_lt_zero n)
  exact Nat.toDigits_length 10 n ds.length (List.length_pos_iff.mpr nonempty)
    (h.trans (value_lt digits))

/-! ## The bytes of digits -/

/-- A digit takes one byte. -/
theorem utf8Len_of_isDigit {ds : List Char} (digits : ∀ d ∈ ds, d.isDigit = true) :
    String.utf8Len ds = ds.length := by
  induction ds with
  | nil => rfl
  | cons d ds ih =>
    obtain ⟨head, tail⟩ := List.forall_mem_cons.mp digits
    have size : d.utf8Size = 1 := by
      have bounds := Char.isDigit_iff_toNat.mp head
      have nine : '9'.toNat = 57 := rfl
      have below : d.toNat ≤ 127 := by omega
      exact Char.utf8Size_eq_one_iff.mpr (UInt32.le_iff_toNat_le.mpr below)
    rw [String.utf8Len_cons, ih tail, size, List.length_cons]

end SurveyDispatch.Digits
