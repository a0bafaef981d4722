import SurveyDispatch.Document.Basic
import SurveyDispatch.Proofs.Number.Texts

/-!
# Decimals and the numbers that they stand for

A decimal is a whole number of units of 10^-28.  A number is converted to the decimal that is
nearest to what its text denotes, where a half is rounded away from zero
(`Number.units_eq_nearest`).

Rounding is monotone.  So the order of two converted numbers never is the reverse of the order of
what their texts denote, and it is that order unless two different numbers are rounded to the same
decimal (`Number.order_follows_texts`).  This does happen below 10^-12, where the digits of a
binary64 number can go on behind the last decimal place.
-/

namespace SurveyDispatch

namespace Decimal

/-! ## Rounding to the last decimal place -/

/-- The number of units of 10^-28 that is nearest to a rational number, where a half is rounded away
from zero. -/
def nearest (q : ℚ) : ℤ :=
  if q < 0 then -⌊-q * 10 ^ 28 + 1 / 2⌋ else ⌊q * 10 ^ 28 + 1 / 2⌋

theorem nearest_of_nonneg {q : ℚ} (h : 0 ≤ q) : nearest q = ⌊q * 10 ^ 28 + 1 / 2⌋ :=
  if_neg h.not_gt

theorem nearest_zero : nearest 0 = 0 := by
  rw [nearest_of_nonneg le_rfl]
  norm_num

/-- A half is rounded away from zero on both sides. -/
theorem nearest_neg (q : ℚ) : nearest (-q) = -nearest q := by
  rcases lt_trichotomy q 0 with negative | rfl | positive
  · rw [nearest_of_nonneg (neg_nonneg.mpr negative.le), nearest, if_pos negative, neg_neg]
  · rw [neg_zero, nearest_zero, neg_zero]
  · rw [nearest_of_nonneg positive.le, nearest, if_pos (neg_neg_of_pos positive), neg_neg]

theorem nearest_nonneg {q : ℚ} (h : 0 ≤ q) : 0 ≤ nearest q := by
  rw [nearest_of_nonneg h]
  positivity

/-- Rounding keeps the order. -/
theorem nearest_mono {p q : ℚ} (le : p ≤ q) : nearest p ≤ nearest q := by
  have above : ∀ {p q : ℚ}, 0 ≤ p → p ≤ q → nearest p ≤ nearest q := by
    intro p q nonneg le
    rw [nearest_of_nonneg nonneg, nearest_of_nonneg (nonneg.trans le)]
    gcongr
  rcases lt_or_ge p 0 with negative | nonneg
  · rcases lt_or_ge q 0 with below | beyond
    · have := above (neg_nonneg.mpr below.le) (neg_le_neg le)
      rw [nearest_neg, nearest_neg] at this
      exact neg_le_neg_iff.mp this
    · have := nearest_nonneg (neg_nonneg.mpr negative.le)
      rw [nearest_neg] at this
      exact (neg_nonneg.mp this).trans (nearest_nonneg beyond)
  · exact above nonneg le

/-- A whole number of units stays as it is. -/
theorem nearest_intCast_div (i : ℤ) : nearest (i / 10 ^ 28) = i := by
  have whole : ∀ i : ℤ, 0 ≤ i → nearest (i / 10 ^ 28) = i := by
    intro i nonneg
    have positive : (0 : ℚ) ≤ i := Int.cast_nonneg nonneg
    rw [nearest_of_nonneg (by positivity), div_mul_cancel₀ _ (by norm_num), Int.floor_intCast_add]
    norm_num
  rcases le_total 0 i with nonneg | nonpos
  · exact whole i nonneg
  · have := whole (-i) (neg_nonneg.mpr nonpos)
    rw [Int.cast_neg, neg_div, nearest_neg] at this
    exact neg_inj.mp this

/-- The sign of a number has no influence on how it is rounded. -/
theorem nearest_sign_mul (negative : Bool) (q : ℚ) :
    nearest (Number.sign negative * q) = Number.sign negative * nearest q := by
  cases negative with
  | true => simp [Number.sign, nearest_neg]
  | false => simp [Number.sign]

/-- A fraction of units is rounded half up. -/
theorem nearest_natCast_div (n d : ℕ) (h : 0 < d) :
    nearest ((n / d : ℚ) / 10 ^ 28) = roundHalfUp n d := by
  have positive : (0 : ℚ) < d := Nat.cast_pos.mpr h
  have halves : (n / d : ℚ) + 1 / 2 = ((2 * n + d : ℕ) : ℤ) / ((2 * d : ℕ) : ℚ) := by
    push_cast
    field_simp
  rw [nearest_of_nonneg (by positivity), div_mul_cancel₀ _ (by norm_num), halves,
    Rat.floor_intCast_div_natCast, roundHalfUp]
  exact_mod_cast rfl

/-- The order of the rounded numbers is the order of the numbers unless rounding makes them one. -/
theorem compare_nearest_iff {p q : ℚ} :
    compare (nearest p) (nearest q) = compare p q ↔ (nearest p = nearest q → p = q) := by
  rcases lt_trichotomy p q with lt | rfl | gt
  · rw [compare_lt_iff_lt.mpr lt, compare_lt_iff_lt]
    refine ⟨fun less same => absurd same less.ne, fun apart => ?_⟩
    exact lt_of_le_of_ne (nearest_mono lt.le) fun same => lt.ne (apart same)
  · rw [compare_eq_iff_eq.mpr rfl, compare_eq_iff_eq.mpr rfl]
    exact ⟨fun _ _ => rfl, fun _ => rfl⟩
  · rw [compare_gt_iff_gt.mpr gt, compare_gt_iff_gt]
    refine ⟨fun more same => absurd same more.ne', fun apart => ?_⟩
    exact lt_of_le_of_ne (nearest_mono gt.le) fun same => gt.ne' (apart same.symm)

/-! ## Conversions -/

variable {negative : Bool} {s : Scientific} {d : Decimal}

/-- The units of a decimal, which it may have to be rounded to. -/
def unitsOf (s : Scientific) : ℕ :=
  if -28 ≤ s.exponent then s.digits * 10 ^ (s.exponent + 28).toNat
  else roundHalfUp s.digits (10 ^ (-28 - s.exponent).toNat)

/-- The units of a decimal are those nearest to its value. -/
theorem nearest_value (s : Scientific) : nearest s.value = unitsOf s := by
  have ten : (10 : ℚ) ≠ 0 := by norm_num
  unfold unitsOf
  split
  next fits =>
    have units : s.value = ((s.digits * 10 ^ (s.exponent + 28).toNat : ℕ) : ℤ) / 10 ^ 28 := by
      have power : (10 : ℚ) ^ s.exponent = 10 ^ (s.exponent + 28).toNat / 10 ^ 28 := by
        rw [← zpow_natCast, Int.toNat_of_nonneg (by omega), zpow_add₀ ten]
        norm_num
      rw [Scientific.value, power]
      push_cast
      ring
    rw [units, nearest_intCast_div]
  next =>
    have units : s.value = (s.digits / (10 ^ (-28 - s.exponent).toNat : ℕ) : ℚ) / 10 ^ 28 := by
      have power : (10 : ℚ) ^ s.exponent = 1 / 10 ^ (-28 - s.exponent).toNat / 10 ^ 28 := by
        rw [← zpow_natCast, Int.toNat_of_nonneg (by omega), zpow_sub₀ ten]
        field_simp
      rw [Scientific.value, power]
      push_cast
      ring
    rw [units, nearest_natCast_div _ _ (by positivity)]

/-- A mantissa with a scale is kept exactly, as units of the scale 28. -/
theorem units_of_ofParts? {mantissa scale : ℕ} (h : ofParts? negative mantissa scale = some d) :
    scale ≤ 28 ∧ d.units = Number.sign negative * (mantissa * 10 ^ (28 - scale) : ℕ) := by
  unfold ofParts? at h
  split at h
  next inRange =>
    cases h
    refine ⟨inRange.2, ?_⟩
    cases negative with
    | false => simp [units, Number.sign]
    | true =>
      -- Zero has lost its sign.
      rcases Nat.eq_zero_or_pos mantissa with rfl | positive
      · simp [units]
      · simp [units, Number.sign, positive.ne']
  · cases h

/-- Digits with at most 28 places keep their value. -/
theorem units_of_places (zeros : ℕ) {mantissa scale : ℕ}
    (h : ofParts? negative mantissa scale = some d) (digits : mantissa = s.digits * 10 ^ zeros)
    (exponent : s.exponent = (zeros : ℤ) - scale) :
    d.units = Number.sign negative * unitsOf s := by
  obtain ⟨fits, units⟩ := units_of_ofParts? h
  have places : (s.exponent + 28).toNat = zeros + (28 - scale) := by omega
  rw [units, unitsOf, if_pos (by omega), places, digits, pow_add, mul_assoc]

/-- A decimal in full is rounded to its units. -/
theorem units_of_ofFull? (h : ofFull? negative s = some d) :
    d.units = Number.sign negative * unitsOf s := by
  unfold ofFull? at h
  split at h
  · exact units_of_places _ h rfl (by omega)
  · exact units_of_places 0 h (by simp) (by omega)

/-- A decimal with an exponent is rounded to its units. -/
theorem units_of_ofExponential? (h : ofExponential? negative s = some d) :
    d.units = Number.sign negative * unitsOf s := by
  unfold ofExponential? at h
  split at h
  · cases h
  · split at h
    · exact units_of_places _ h rfl (by omega)
    · split at h
      · exact units_of_places 0 h (by simp) (by omega)
      next beyond =>
        rw [(units_of_ofParts? h).2, unitsOf, if_neg beyond, Nat.sub_self, pow_zero, mul_one]
        rfl

end Decimal

namespace Number

open Decimal (nearest)

variable {m n : Number} {a b d : Decimal}

/-- A number is converted to the decimal nearest to what its text denotes. -/
theorem units_eq_nearest (h : n.toDecimal? = some d) : d.units = nearest n.printed := by
  cases n with
  | integer i inRange =>
    have units := (Decimal.units_of_ofParts? h).2
    have whole : printed (integer i inRange) = ((i * 10 ^ 28 : ℤ) : ℚ) / 10 ^ 28 := by
      rw [printed, Int.cast_mul]
      norm_num
    rw [units, whole, Decimal.nearest_intCast_div, Nat.cast_mul, ← mul_assoc, sign_mul_natAbs]
    rfl
  | float x =>
    rw [printed, Decimal.nearest_sign_mul, Decimal.nearest_value]
    unfold toDecimal? at h
    dsimp only at h
    split at h
    · exact Decimal.units_of_ofFull? h
    · exact Decimal.units_of_ofExponential? h

/-- Numbers that are both decimals are ordered as the units nearest to what they are printed as. -/
theorem order?_of_toDecimal? (hm : m.toDecimal? = some a) (hn : n.toDecimal? = some b) :
    m.order? n = some (compare (nearest m.printed) (nearest n.printed)) := by
  rw [order?, hm, hn, ← units_eq_nearest hm, ← units_eq_nearest hn]
  rfl

/-- Two numbers that are decimals are compared by what their texts denote, rounded to 28 places.
So the order is never reversed, and it is the order of what the texts denote unless two different
numbers become one by rounding.  Numbers with at most 28 places are not rounded. -/
theorem order_follows_texts (hm : m.toDecimal? = some a) (hn : n.toDecimal? = some b) :
    ∃ p q : ℚ, denoted? m.write = some p ∧ denoted? n.write = some q ∧
      m.order? n = some (compare (nearest p) (nearest q)) ∧
      (m.order? n = some .lt → p < q) ∧ (m.order? n = some .gt → q < p) ∧
      (p = q → m.order? n = some .eq) ∧
      (m.order? n = some (compare p q) ↔ (nearest p = nearest q → p = q)) ∧
      ((∃ i j : ℤ, p = i / 10 ^ 28 ∧ q = j / 10 ^ 28) → m.order? n = some (compare p q)) ∧
      ((Document.number m).sameValue (.number n) = true ↔ nearest p = nearest q) := by
  have order := order?_of_toDecimal? hm hn
  refine ⟨m.printed, n.printed, denoted?_write m, denoted?_write n, order, ?_⟩
  rw [order]
  refine ⟨?_, ?_, ?_, ?_, ?_, ?_⟩
  · intro less
    have units := compare_lt_iff_lt.mp (Option.some.inj less)
    exact lt_of_not_ge fun le => (Decimal.nearest_mono le).not_gt units
  · intro more
    have units := compare_gt_iff_gt.mp (Option.some.inj more)
    exact lt_of_not_ge fun le => (Decimal.nearest_mono le).not_gt units
  · intro same
    rw [same, compare_eq_iff_eq.mpr rfl]
  · rw [Option.some_inj, Decimal.compare_nearest_iff]
  · rintro ⟨i, j, left, right⟩
    rw [Option.some_inj, Decimal.compare_nearest_iff, left, right, Decimal.nearest_intCast_div,
      Decimal.nearest_intCast_div]
    rintro rfl
    rfl
  · rw [Document.sameValue, order, beq_iff_eq, Option.some_inj, compare_eq_iff_eq]

/-- The number 2.5e-28. -/
def halfway : Number := .float ⟨false, 5575186299632656, 930, by decide⟩

/-- The number 3e-28. -/
def above : Number := .float ⟨false, 6690223559559187, 930, by decide⟩

/-- A half behind the last decimal place is rounded up to the next number. -/
theorem order_follows_texts_halfway :
    (∃ a, halfway.toDecimal? = some a) ∧ (∃ b, above.toDecimal? = some b) ∧
      denoted? halfway.write = some (5 / 2 / 10 ^ 28) ∧ denoted? above.write = some (3 / 10 ^ 28) ∧
      halfway.order? above = some .eq ∧
      (Document.number halfway).sameValue (.number above) = true := by
  have left : ∃ a, halfway.toDecimal? = some a := ⟨⟨false, 3, 28, by decide, by decide⟩, by
    decide +kernel⟩
  have right : ∃ b, above.toDecimal? = some b := ⟨⟨false, 3, 28, by decide, by decide⟩, by
    decide +kernel⟩
  have leftText : halfway.write = ['2', '.', '5', 'e', '-', '2', '8'] := by decide +kernel
  have rightText : above.write = ['3', 'e', '-', '2', '8'] := by decide +kernel
  have leftValue : denoted? halfway.write = some (5 / 2 / 10 ^ 28) := by
    have read : Literal.read? halfway.write = some ⟨false, ['2'], some ['5'], some (-28)⟩ := by
      rw [leftText]
      rfl
    have digits : Digits.value ['2', '5'] = 25 := rfl
    norm_num [denoted?, read, Literal.denoted, sign, digits]
  have rightValue : denoted? above.write = some (3 / 10 ^ 28) := by
    have read : Literal.read? above.write = some ⟨false, ['3'], none, some (-28)⟩ := by
      rw [rightText]
      rfl
    have digits : Digits.value ['3'] = 3 := rfl
    norm_num [denoted?, read, Literal.denoted, sign, digits]
  obtain ⟨a, ha⟩ := left
  obtain ⟨b, hb⟩ := right
  obtain ⟨p, q, hp, hq, order, -, -, -, -, -, same⟩ := order_follows_texts ha hb
  cases leftValue.symm.trans hp
  cases rightValue.symm.trans hq
  have up : nearest (5 / 2 / 10 ^ 28) = 3 := Decimal.nearest_natCast_div 5 2 (by decide)
  have stays : nearest (3 / 10 ^ 28) = 3 := Decimal.nearest_intCast_div 3
  refine ⟨⟨a, ha⟩, ⟨b, hb⟩, leftValue, rightValue, ?_, ?_⟩
  · rw [order, up, stays]
    rfl
  · rw [same, up, stays]

end Number

end SurveyDispatch
