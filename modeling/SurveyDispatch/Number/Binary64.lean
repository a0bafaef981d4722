/-!
# Binary64 numbers

A finite binary64 number is a sign, a significand below 2^53 and a power of two.  Every such number
is a whole multiple of the least positive one, 2^-1074, so its value is kept as a natural number of
these units: `significand * Nat.pow 2 exponent`.

All arithmetic is exact on natural numbers and rounded once at the end, to the nearest number, a
half going to the even significand.  A result that is too large is `none`.  No machine float is
involved, so every operation can be evaluated in a proof.

`ofScaled?` is the quick way to read decimal digits: the digits become one float, the power of ten
another, and their product or quotient is rounded again.  `ofDecimal?` rounds once and so gives the
nearest number.  The two can differ in the last bit.
-/

namespace SurveyDispatch

/-- The significand has 53 bits, or fewer at the least exponent, and the exponent is in range. -/
def Binary64.Canonical (significand exponent : Nat) : Prop :=
  significand < 0x20000000000000 ∧ exponent ≤ 2045 ∧ (significand < 0x10000000000000 → exponent = 0)

instance (significand exponent : Nat) :
    Decidable (Binary64.Canonical significand exponent) := by
  unfold Binary64.Canonical; infer_instance

/-- A finite binary64 number. -/
structure Binary64 where
  /-- Whether the number has a minus sign.  Zero may have one. -/
  negative : Bool
  /-- The leading bits. -/
  significand : Nat
  /-- The power of two by which the significand counts units of 2^-1074. -/
  exponent : Nat
  /-- Each number has one representation. -/
  canonical : Binary64.Canonical significand exponent
  deriving DecidableEq

namespace Binary64

/-- How many units of 2^-1074 make one. -/
def unitsPerOne : Nat := Nat.pow 2 1074

/-- The absolute value in units of 2^-1074. -/
def magnitude (x : Binary64) : Nat := x.significand * Nat.pow 2 x.exponent

/-- The value in units of 2^-1074. -/
def units (x : Binary64) : Int := if x.negative then -x.magnitude else x.magnitude

/-- Zero with a sign. -/
def zero (negative : Bool) : Binary64 := ⟨negative, 0, 0, by decide⟩

/-- Whether the value is zero, with either sign. -/
def isZero (x : Binary64) : Bool := x.significand == 0

/-- The same absolute value with another sign. -/
def withSign (negative : Bool) (x : Binary64) : Binary64 := { x with negative := negative }

/-- The whole number nearest to `n / d`, a half going to the even one. -/
def roundHalfEven (n d : Nat) : Nat :=
  if 2 * (n % d) < d ∨ 2 * (n % d) = d ∧ n / d % 2 = 0 then n / d else n / d + 1

/-- The number with the given parts, if they are in range. -/
def ofParts? (negative : Bool) (significand exponent : Nat) : Option Binary64 :=
  if h : Canonical significand exponent then some ⟨negative, significand, exponent, h⟩ else none

/-- The number nearest to `n / d` units. -/
def ofUnits? (negative : Bool) (n d : Nat) : Option Binary64 :=
  let exponent := (n / d).log2 - 52
  let significand := roundHalfEven n (d * Nat.pow 2 exponent)
  if significand = 0x20000000000000 then ofParts? negative 0x10000000000000 (exponent + 1)
  else ofParts? negative significand exponent

/-- The number nearest to `n / d`. -/
def ofRatio? (negative : Bool) (n d : Nat) : Option Binary64 :=
  ofUnits? negative (n * unitsPerOne) d

/-- The number nearest to a whole number. -/
def ofInt? (i : Int) : Option Binary64 := ofRatio? (i < 0) i.natAbs 1

/-- The nearest number to a product. -/
def mul? (x y : Binary64) : Option Binary64 :=
  ofUnits? (x.negative != y.negative) (x.magnitude * y.magnitude) unitsPerOne

/-- The nearest number to a quotient.  A zero divisor has none. -/
def div? (x y : Binary64) : Option Binary64 :=
  if y.isZero then none
  else ofUnits? (x.negative != y.negative) (x.magnitude * unitsPerOne) y.magnitude

/-- The number nearest to a power of ten. -/
def powerOfTen? (n : Nat) : Option Binary64 := ofRatio? false (Nat.pow 10 n) 1

/-- How many decimal digits a natural number has. -/
def digitCount (n : Nat) : Nat := (Nat.toDigits 10 n).length

/-- The number nearest to `digits * 10 ^ exponent`.  Digits far above or below the range are not
expanded. -/
def ofDecimal? (negative : Bool) (digits : Nat) (exponent : Int) : Option Binary64 :=
  if digits = 0 ∨ exponent + digitCount digits < -330 then some (zero negative)
  else if 310 < exponent + digitCount digits then none
  else if 0 ≤ exponent then ofRatio? negative (digits * Nat.pow 10 exponent.toNat) 1
  else ofRatio? negative digits (Nat.pow 10 (-exponent).toNat)

/-- Scales a number by a power of ten, in steps of at most 10^308.  The number of steps left
bounds the loop: after three steps down any number is zero, and two steps up exceed the range. -/
def scale? (x : Binary64) (exponent : Int) : Nat → Option Binary64
  | 0 => if exponent < 0 then some (zero x.negative) else none
  | steps + 1 =>
    if exponent.natAbs ≤ 308 then do
      let power ← powerOfTen? exponent.natAbs
      if 0 ≤ exponent then x.mul? power else x.div? power
    else if x.isZero then some x
    else if 0 ≤ exponent then none
    else do
      let power ← powerOfTen? 308
      scale? (← x.div? power) (exponent + 308) steps

/-- The digits as the nearest number, scaled by a power of ten. -/
def ofScaled? (negative : Bool) (digits : Nat) (exponent : Int) : Option Binary64 := do
  (← ofRatio? negative digits 1).scale? exponent 4

/-- Order by value.  The two zeros are equal. -/
def order (x y : Binary64) : Ordering := compare x.units y.units

example : (ofRatio? false 1 10).map (·.significand) = some 7205759403792794 := by decide +kernel
example : ofDecimal? false 25 (-1) = ofRatio? false 5 2 := by decide +kernel
example : ofDecimal? false 1 309 = none := by decide +kernel
example : ofScaled? false 1 (-400) = some (zero false) := by decide +kernel
example : ofScaled? true 5 (-324) = ofDecimal? true 5 (-324) := by decide +kernel

end Binary64

end SurveyDispatch
