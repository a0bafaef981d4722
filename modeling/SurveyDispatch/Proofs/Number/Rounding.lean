import Mathlib.Algebra.Order.Field.Power
import Mathlib.Data.Rat.Defs
import SurveyDispatch.Number.Basic
import SurveyDispatch.Proofs.Text.Digits

/-!
# The range of binary64 numbers

A positive number is rounded to a significand of 53 bits.  It is too large if this takes more than
the greatest exponent.  The least such number is `Binary64.limit`, which is halfway between the
greatest binary64 number and 2^1024 and is rounded up to it, since a half goes to the even
significand (`Binary64.ofRatio?_eq_none_iff`).

The same limit holds for decimals of any length, where those far outside of the range are not
expanded (`Binary64.ofDecimal?_eq_none_iff`).
-/

namespace SurveyDispatch.Binary64

variable {negative : Bool} {n d : Nat}

/-! ## Significands -/

/-- Rounding gives the quotient or one more. -/
theorem roundHalfEven_eq (n d : Nat) :
    roundHalfEven n d = n / d ∨ roundHalfEven n d = n / d + 1 := by
  rw [roundHalfEven]
  split
  · exact .inl rfl
  · exact .inr rfl

/-- A number is rounded up from an odd one if it is at least halfway to the next. -/
theorem roundHalfEven_eq_succ_iff (odd : n / d % 2 = 1) :
    roundHalfEven n d = n / d + 1 ↔ d ≤ 2 * (n % d) := by
  rw [roundHalfEven]
  split <;> omega

/-- The exponent by which a number of units has a significand of 53 bits. -/
def exponentOf (u : Nat) : Nat := u.log2 - 52

/-- With its exponent, a number fits into 53 bits. -/
theorem lt_of_exponentOf (u : Nat) : u < 2 ^ (exponentOf u + 53) := by
  have bits : u < 2 ^ (u.log2 + 1) := Nat.lt_log2_self
  exact bits.trans_le (Nat.pow_le_pow_right (by decide) (by rw [exponentOf]; omega))

/-- Where the exponent is not zero, the highest of the 53 bits is set. -/
theorem le_of_exponentOf {u : Nat} (h : exponentOf u ≠ 0) : 2 ^ (exponentOf u + 52) ≤ u := by
  have large : 52 < u.log2 := by
    rw [exponentOf] at h
    omega
  have bits : exponentOf u + 52 = u.log2 := by
    rw [exponentOf]
    omega
  rw [bits]
  refine Nat.log2_self_le ?_
  rintro rfl
  exact absurd large (by decide)

/-- The significand before it is cut to 53 bits. -/
def significandOf (n d : Nat) : Nat := roundHalfEven n (d * 2 ^ exponentOf (n / d))

/-- A quotient that is scaled down fits into 53 bits. -/
theorem quotient_lt (n d : Nat) : n / (d * 2 ^ exponentOf (n / d)) < 2 ^ 53 := by
  rw [← Nat.div_div_eq_div_mul, Nat.div_lt_iff_lt_mul (Nat.two_pow_pos _), ← Nat.pow_add,
    Nat.add_comm]
  exact lt_of_exponentOf (n / d)

/-- Where the exponent is not zero, the highest bit of the scaled quotient is set. -/
theorem le_quotient (h : exponentOf (n / d) ≠ 0) : 2 ^ 52 ≤ n / (d * 2 ^ exponentOf (n / d)) := by
  rw [← Nat.div_div_eq_div_mul, Nat.le_div_iff_mul_le (Nat.two_pow_pos _), ← Nat.pow_add,
    Nat.add_comm]
  exact le_of_exponentOf h

/-! ## Numbers that are too large -/

/-- Only what is canonical makes a number. -/
theorem ofParts?_eq_none_iff {significand exponent : Nat} :
    ofParts? negative significand exponent = none ↔ ¬ Canonical significand exponent := by
  rw [ofParts?]
  split
  next canonical => simp [canonical]
  next other => simp [other]

/-- A number of units is too large if its exponent is, which rounding may have raised by one. -/
theorem ofUnits?_eq_none_iff_exponentOf :
    ofUnits? negative n d = none ↔
      2045 < exponentOf (n / d) ∨ exponentOf (n / d) = 2045 ∧ significandOf n d = 2 ^ 53 := by
  have below := quotient_lt n d
  have above := le_quotient (n := n) (d := d)
  have rounded := roundHalfEven_eq n (d * 2 ^ exponentOf (n / d))
  have unfolded : ofUnits? negative n d =
      if significandOf n d = 2 ^ 53 then ofParts? negative (2 ^ 52) (exponentOf (n / d) + 1)
      else ofParts? negative (significandOf n d) (exponentOf (n / d)) := rfl
  rw [unfolded]
  unfold significandOf
  generalize roundHalfEven n (d * 2 ^ exponentOf (n / d)) = significand at *
  generalize n / (d * 2 ^ exponentOf (n / d)) = quotient at *
  generalize exponentOf (n / d) = exponent at *
  split
  · rw [ofParts?_eq_none_iff, Canonical]
    omega
  · rw [ofParts?_eq_none_iff, Canonical]
    omega

variable {k : Nat}

/-- A small exponent bounds a fraction from above. -/
theorem lt_of_exponentOf_le (positive : 0 < d) (h : exponentOf (n / d) ≤ k) :
    n < 2 ^ 53 * (2 ^ k * d) := by
  have bits : n / d < 2 ^ (53 + k) :=
    (lt_of_exponentOf _).trans_le (Nat.pow_le_pow_right (by decide) (by omega))
  rw [Nat.div_lt_iff_lt_mul positive, Nat.pow_add, Nat.mul_assoc] at bits
  exact bits

/-- A large exponent bounds a fraction from below. -/
theorem le_of_lt_exponentOf (positive : 0 < d) (h : k + 1 < exponentOf (n / d)) :
    2 ^ 54 * (2 ^ k * d) ≤ n := by
  have bits : 2 ^ (54 + k) ≤ n / d :=
    (Nat.pow_le_pow_right (by decide) (by omega)).trans (le_of_exponentOf (by omega))
  rw [Nat.le_div_iff_mul_le positive, Nat.pow_add, Nat.mul_assoc] at bits
  exact bits

/-- The greatest significand is odd, so from halfway on it is rounded up. -/
theorem roundHalfEven_eq_iff {half : Nat} (positive : 0 < half) (below : n / (2 * half) < 2 ^ 53) :
    roundHalfEven n (2 * half) = 2 ^ 53 ↔ (2 ^ 54 - 1) * half ≤ n := by
  have rounded := roundHalfEven_eq n (2 * half)
  have odd := roundHalfEven_eq_succ_iff (n := n) (d := 2 * half)
  have split := Nat.div_add_mod n (2 * half)
  have rest := Nat.mod_lt n (Nat.mul_pos Nat.two_pos positive)
  by_cases greatest : n / (2 * half) = 2 ^ 53 - 1
  · rw [greatest] at rounded odd split
    have odd := odd (by decide)
    omega
  · have smaller : half * (n / (2 * half)) ≤ half * (2 ^ 53 - 2) :=
      Nat.mul_le_mul_left half (by omega)
    rw [Nat.mul_assoc] at split
    omega

/-- Rounding carries into the next exponent from half a unit below it on. -/
theorem significandOf_eq_iff (positive : 0 < d) (h : exponentOf (n / d) = k + 1) :
    significandOf n d = 2 ^ 53 ↔ (2 ^ 54 - 1) * (2 ^ k * d) ≤ n := by
  have double : d * 2 ^ exponentOf (n / d) = 2 * (2 ^ k * d) := by
    rw [h, Nat.pow_succ]
    ring
  have below := quotient_lt n d
  rw [double] at below
  rw [significandOf, double]
  exact roundHalfEven_eq_iff (Nat.mul_pos (Nat.two_pow_pos k) positive) below

/-- A number of units is too large from halfway between the greatest number and its double on. -/
theorem ofUnits?_eq_none_iff (positive : 0 < d) :
    ofUnits? negative n d = none ↔ (2 ^ 54 - 1) * (2 ^ 2044 * d) ≤ n := by
  rw [ofUnits?_eq_none_iff_exponentOf]
  rcases Nat.lt_trichotomy (exponentOf (n / d)) 2045 with less | same | more
  · have := lt_of_exponentOf_le positive (Nat.le_of_lt_succ less)
    omega
  · rw [significandOf_eq_iff positive same]
    omega
  · have := le_of_lt_exponentOf positive more
    omega

/-- The least number that is too large. -/
def limit : Nat := 2 ^ 1024 - 2 ^ 970

theorem limit_mul_unitsPerOne : limit * unitsPerOne = (2 ^ 54 - 1) * 2 ^ 2044 := by
  decide +kernel

/-- A quotient is too large exactly from the limit on. -/
theorem ofRatio?_eq_none_iff (positive : 0 < d) :
    ofRatio? negative n d = none ↔ limit * d ≤ n := by
  have units : (2 ^ 54 - 1) * (2 ^ 2044 * d) = limit * d * unitsPerOne := by
    rw [← Nat.mul_assoc, ← limit_mul_unitsPerOne, Nat.mul_right_comm]
  have some : 0 < unitsPerOne := by decide +kernel
  rw [ofRatio?, ofUnits?_eq_none_iff positive, units]
  exact Nat.mul_le_mul_right_iff some

/-! ## Numbers of documents -/

/-- A whole number of 64 bits is in range. -/
theorem ofInt?_ne_none {i : Int} (h : Number.InRange i) : ofInt? i ≠ none := by
  have small : i.natAbs ≤ 0x10000000000000000 := by
    obtain ⟨above, below⟩ := h
    omega
  have large : 0x10000000000000000 < limit := by decide +kernel
  intro none
  rw [ofInt?, ofRatio?_eq_none_iff Nat.one_pos] at none
  omega

/-! ## Decimals -/

/-- A number has enough digits. -/
theorem lt_pow_digitCount (n : Nat) : n < 10 ^ digitCount n := by
  have digits : ∀ c ∈ Digits.write n, c.isDigit = true := fun _ => Digits.isDigit_of_mem_write
  have bound := Digits.value_lt digits
  rw [Digits.value_write] at bound
  exact bound

/-- A number has no digit too many. -/
theorem pow_digitCount_le (h : 0 < n) : 10 ^ (digitCount n - 1) ≤ n := by
  refine Nat.le_of_not_lt fun less => ?_
  have several : 0 < digitCount n - 1 := by
    refine Nat.pos_of_ne_zero fun zero => ?_
    rw [zero] at less
    omega
  have fewer : digitCount n ≤ digitCount n - 1 := Nat.toDigits_length 10 n _ several less
  omega

variable {digits : Nat} {exponent : ℤ}

/-- A decimal lies below the power of ten that its digits and its exponent give. -/
theorem decimal_lt : (digits * 10 ^ exponent : ℚ) < 10 ^ (exponent + digitCount digits) := by
  have bound : (digits : ℚ) < 10 ^ digitCount digits := by exact_mod_cast lt_pow_digitCount digits
  rw [add_comm, zpow_add₀ (by norm_num), zpow_natCast]
  exact mul_lt_mul_of_pos_right bound (by positivity)

/-- A decimal lies not below a tenth of that power. -/
theorem le_decimal (positive : 0 < digits) :
    (10 ^ (exponent + digitCount digits - 1) : ℚ) ≤ digits * 10 ^ exponent := by
  have bound : (10 ^ (digitCount digits - 1) : ℚ) ≤ digits := by
    exact_mod_cast pow_digitCount_le positive
  have count : exponent + digitCount digits - 1 = (digitCount digits - 1 : ℕ) + exponent := by
    have := Nat.length_toDigits_pos (b := 10) (n := digits)
    rw [digitCount]
    omega
  rw [count, zpow_add₀ (by norm_num), zpow_natCast]
  exact mul_le_mul_of_nonneg_right bound (by positivity)

/-- A decimal far below the range is not too large. -/
theorem decimal_lt_limit (small : digits = 0 ∨ exponent + digitCount digits < -330) :
    (digits * 10 ^ exponent : ℚ) < limit := by
  have one : (1 : ℚ) ≤ limit := by
    have : 1 ≤ limit := by decide +kernel
    exact_mod_cast this
  refine lt_of_lt_of_le ?_ one
  rcases small with rfl | small
  · norm_num
  · exact decimal_lt.trans_le (zpow_le_one_of_nonpos₀ (by norm_num) (by omega))

/-- A decimal far above the range is too large. -/
theorem limit_le_decimal (positive : 0 < digits) (large : 310 < exponent + digitCount digits) :
    (limit : ℚ) ≤ digits * 10 ^ exponent := by
  have beyond : (limit : ℚ) ≤ 10 ^ (310 : ℤ) := by
    have : limit ≤ 10 ^ 310 := by decide +kernel
    exact_mod_cast this
  have power : (10 ^ (310 : ℤ) : ℚ) ≤ 10 ^ (exponent + digitCount digits - 1) :=
    zpow_le_zpow_right₀ (by norm_num) (by omega)
  exact beyond.trans (power.trans (le_decimal positive))

/-- A decimal is too large exactly from the limit on. -/
theorem ofDecimal?_eq_none_iff :
    ofDecimal? negative digits exponent = none ↔ (limit : ℚ) ≤ digits * 10 ^ exponent := by
  rw [ofDecimal?]
  split
  next small => exact ⟨nofun, fun large => absurd large (decimal_lt_limit small).not_ge⟩
  next expanded =>
    have positive := Nat.pos_of_ne_zero (not_or.mp expanded).1
    split
    next large => exact ⟨fun _ => limit_le_decimal positive large, fun _ => rfl⟩
    · split
      next whole =>
        obtain ⟨e, rfl⟩ := Int.eq_ofNat_of_zero_le whole
        rw [ofRatio?_eq_none_iff Nat.one_pos, Nat.mul_one, Int.toNat_natCast, zpow_natCast]
        exact_mod_cast Iff.rfl
      next =>
        obtain ⟨e, rfl⟩ : ∃ e : ℕ, exponent = -e := ⟨(-exponent).toNat, by omega⟩
        have power : (0 : ℚ) < 10 ^ e := by positivity
        rw [neg_neg, Int.toNat_natCast, Nat.pow_eq, ofRatio?_eq_none_iff (Nat.pow_pos (by decide)),
          zpow_neg, zpow_natCast, ← div_eq_mul_inv, le_div_iff₀ power]
        exact_mod_cast Iff.rfl

end SurveyDispatch.Binary64
