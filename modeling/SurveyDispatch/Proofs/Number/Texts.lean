import Mathlib.Algebra.Order.Field.Power
import Mathlib.Data.Rat.Floor
import SurveyDispatch.Proofs.Number.Reading

/-!
# What number texts denote

A number text denotes a rational number: all its digits as one natural number, scaled by the power
of ten that its exponent and the length of its fraction give (`Number.Literal.denoted`).

The text of a number is that of a literal in normal form, with a point in front of the last digits
where it has a fraction (`Number.Literal.ofDigits`).  So it is read back as this literal, and the
text of a binary64 number denotes its shortest decimal (`Number.denoted?_write`).
-/

namespace SurveyDispatch

/-- The rational number that a decimal stands for. -/
def Scientific.value (s : Scientific) : ℚ := s.digits * 10 ^ s.exponent

namespace Number

/-! ## Literals -/

/-- One or minus one. -/
def sign (negative : Bool) : ℤ := if negative then -1 else 1

/-- The rational number that a literal denotes. -/
def Literal.denoted (l : Literal) : ℚ :=
  sign l.negative * Digits.value (l.whole ++ l.fraction.getD []) *
    10 ^ (l.exponent.getD 0 - (l.fraction.getD []).length)

/-- The rational number that a text denotes.  One that is not the text of a number denotes none. -/
def denoted? (text : List Char) : Option ℚ := (Literal.read? text).map Literal.denoted

/-- The text of a literal denotes what the literal does. -/
theorem denoted?_text {l : Literal} (h : l.Normal) : denoted? l.text = some l.denoted := by
  rw [denoted?, Literal.read?_text h, Option.map_some]

/-- A natural number as a literal, the last `places` digits of which are the fraction. -/
def Literal.ofDigits (negative : Bool) (digits places : Nat) (exponent : Option Int) : Literal :=
  let ds := Digits.writePadded (places + 1) digits
  ⟨negative, ds.take (ds.length - places), some (ds.drop (ds.length - places)), exponent⟩

variable {negative : Bool} {digits places : Nat} {exponent : Option Int}

/-- The text of digits with a point in them, a sign in front and an exponent behind. -/
theorem Literal.text_ofDigits :
    (Literal.ofDigits negative digits places exponent).text =
      (if negative then ['-'] else []) ++ (pointed digits places ++ exponentText exponent) := by
  simp only [Literal.text, Literal.ofDigits, fractionText, pointed, List.append_assoc]
  rfl

/-- There is at least one digit in front of the fraction. -/
theorem lt_length_writePadded (places digits : Nat) :
    places < (Digits.writePadded (places + 1) digits).length := by
  rw [Digits.length_writePadded]
  omega

/-- The digits in front of the fraction have no needless zero: they are a single one or start the
number. -/
theorem wholeAllowed_take (digits places : Nat) :
    wholeAllowed ((Digits.writePadded (places + 1) digits).take
      ((Digits.writePadded (places + 1) digits).length - places)) = true := by
  by_cases short : (Digits.write digits).length ≤ places + 1
  · have single : (Digits.writePadded (places + 1) digits).length = places + 1 := by
      rw [Digits.length_writePadded, Nat.max_eq_left short]
    rw [single, Nat.add_sub_cancel_left]
    obtain ⟨c, cs, eq⟩ := List.exists_cons_of_length_eq_add_one single
    rw [eq, List.take_succ_cons, List.take_zero]
    unfold wholeAllowed
    split
    · next none => cases none
    · next zero =>
      cases zero
      rfl
    · rfl
  · have unpadded : Digits.writePadded (places + 1) digits = Digits.write digits := by
      rw [Digits.writePadded, Nat.sub_eq_zero_of_le (by omega)]
      rfl
    have positive : 0 < digits := by
      rcases Nat.eq_zero_or_pos digits with rfl | positive
      · exact absurd (Nat.le_add_left 1 places) short
      · exact positive
    obtain ⟨c, cs, eq, ne⟩ := Digits.write_eq_cons positive
    obtain ⟨n, length⟩ : ∃ n, (c :: cs).length - places = n + 1 := by
      rw [eq] at short
      exact ⟨(c :: cs).length - places - 1, by omega⟩
    rw [unpadded, eq, length, List.take_succ_cons]
    unfold wholeAllowed
    split
    · next none => cases none
    · next zero => exact absurd (List.cons.inj zero).1 ne
    · rfl

theorem Literal.normal_ofDigits (h : 0 < places) :
    (Literal.ofDigits negative digits places exponent).Normal where
  whole_digits _ mem := Digits.isDigit_of_mem_writePadded (List.mem_of_mem_take mem)
  whole_allowed := wholeAllowed_take digits places
  fraction_nonempty := by
    intro none
    have length := congrArg List.length (Option.some.inj none)
    have := lt_length_writePadded places digits
    rw [List.length_drop, List.length_nil] at length
    omega
  fraction_digits := by
    rintro _ ⟨⟩ c mem
    exact Digits.isDigit_of_mem_writePadded (List.mem_of_mem_drop mem)

/-- The point moves the digits down by as many powers of ten as there are places. -/
theorem Literal.denoted_ofDigits :
    (Literal.ofDigits negative digits places exponent).denoted =
      sign negative * digits * 10 ^ (exponent.getD 0 - places) := by
  have fraction : ((Digits.writePadded (places + 1) digits).drop
      ((Digits.writePadded (places + 1) digits).length - places)).length = places := by
    have := lt_length_writePadded places digits
    rw [List.length_drop]
    omega
  rw [Literal.denoted, Literal.ofDigits, Option.getD_some, List.take_append_drop,
    Digits.value_writePadded, fraction]

/-! ## Numbers -/

/-- The rational number that a number is printed as. -/
def printed : Number → ℚ
  | integer i _ => i
  | float x => sign x.negative * x.shortest.value

/-- An integer is its sign times its magnitude. -/
theorem sign_mul_natAbs (i : Int) : sign (i < 0) * i.natAbs = i := by
  rw [sign]
  split
  next negative =>
    have := of_decide_eq_true negative
    omega
  next positive =>
    have := of_decide_eq_false (Bool.eq_false_of_not_eq_true positive)
    omega

/-- The literal of a whole number denotes it. -/
theorem denoted_wholeLiteral (i : Int) : (wholeLiteral i).denoted = i := by
  have digits : (wholeLiteral i).denoted = sign (i < 0) * i.natAbs := by
    simp [Literal.denoted, wholeLiteral, Digits.value_write]
  rw [digits, ← Int.cast_natCast i.natAbs, ← Int.cast_mul, sign_mul_natAbs]

/-- The literal that a decimal is written as, with a sign. -/
def decimalLiteral (negative : Bool) (s : Scientific) : Literal :=
  if InFull s then
    if 0 ≤ s.exponent then .ofDigits negative (s.digits * Nat.pow 10 (s.exponent.toNat + 1)) 1 none
    else .ofDigits negative s.digits (-s.exponent).toNat none
  else if s.size = 1 then ⟨negative, Digits.write s.digits, none, some s.leading⟩
  else .ofDigits negative s.digits (s.size - 1) (some s.leading)

variable {s : Scientific}

theorem size_pos (s : Scientific) : 0 < s.size := Nat.length_toDigits_pos

/-- A decimal is written in full if it is of moderate size, and else with an exponent. -/
theorem text_decimalLiteral (negative : Bool) (s : Scientific) :
    (decimalLiteral negative s).text = (if negative then ['-'] else []) ++
      (if InFull s then writeInFull s else writeWithExponent s) := by
  unfold decimalLiteral writeInFull writeWithExponent
  split
  · split
    · rw [Literal.text_ofDigits, exponentText, List.append_nil]
    · rw [Literal.text_ofDigits, exponentText, List.append_nil]
  · dsimp only
    split
    · rfl
    · rw [Literal.text_ofDigits]
      rfl

/-- The literal of a decimal is one that can be written. -/
theorem normal_decimalLiteral (negative : Bool) (s : Scientific) :
    (decimalLiteral negative s).Normal := by
  unfold decimalLiteral
  split
  · split
    · exact Literal.normal_ofDigits Nat.one_pos
    · exact Literal.normal_ofDigits (by omega)
  · split
    · exact ⟨fun _ => Digits.isDigit_of_mem_write, wholeAllowed_write _, nofun, nofun⟩
    · have := size_pos s
      exact Literal.normal_ofDigits (by omega)

/-- In both forms, the literal of a decimal denotes its value. -/
theorem denoted_decimalLiteral (negative : Bool) (s : Scientific) :
    (decimalLiteral negative s).denoted = sign negative * s.value := by
  have ten : (10 : ℚ) ≠ 0 := by norm_num
  unfold decimalLiteral
  rw [Scientific.value, ← mul_assoc]
  split
  · split
    next positive =>
      -- One more zero than there are makes up for the place behind the point.
      have power : (10 : ℚ) ^ s.exponent =
          (Nat.pow 10 (s.exponent.toNat + 1) : ℕ) * 10 ^ ((0 : ℤ) - (1 : ℕ)) := by
        rw [Nat.pow_eq, Nat.cast_pow, Nat.cast_ofNat, ← zpow_natCast, ← zpow_add₀ ten]
        congr 1
        omega
      rw [Literal.denoted_ofDigits, power, Nat.cast_mul, Option.getD_none]
      ring
    next negative =>
      have power : ((-s.exponent).toNat : ℤ) = -s.exponent := Int.toNat_of_nonneg (by omega)
      rw [Literal.denoted_ofDigits, power, Option.getD_none, zero_sub, neg_neg]
  · split
    next single =>
      have power : s.leading = s.exponent := by
        rw [Scientific.leading]
        omega
      simp [Literal.denoted, Digits.value_write, power]
    next several =>
      have := size_pos s
      have power : s.leading - ((s.size - 1 : ℕ) : ℤ) = s.exponent := by
        rw [Scientific.leading]
        omega
      rw [Literal.denoted_ofDigits, Option.getD_some, power]

/-- The text of a number denotes it. -/
theorem denoted?_write (n : Number) : denoted? n.write = some n.printed := by
  cases n with
  | integer i h =>
    rw [← text_wholeLiteral, denoted?_text (normal_wholeLiteral i), denoted_wholeLiteral, printed]
  | float x =>
    have text : (decimalLiteral x.negative x.shortest).text = writeFloat x :=
      text_decimalLiteral x.negative x.shortest
    rw [write, ← text, denoted?_text (normal_decimalLiteral x.negative x.shortest),
      denoted_decimalLiteral, printed]

end Number

end SurveyDispatch
