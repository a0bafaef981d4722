import SurveyDispatch.Number.Basic

/-!
# Decimals of 96 bits

Numbers are compared as decimals, so that 5, 5.0 and 5.00 are equal and no binary rounding shows.
A decimal is a mantissa below 2^96 with at most 28 decimal places.

A whole number always is a decimal.  A binary64 number is taken by its text.  A text written in full
keeps its digits.  A text with an exponent keeps them down to 28 places, where a half is rounded
away from zero, and is no decimal if the exponent is beyond 28 or the mantissa too large.

A pair with a number that is no decimal is compared by the nearest binary64 numbers.
-/

namespace SurveyDispatch

/-- A decimal: `mantissa / 10 ^ scale` with a sign. -/
structure Decimal where
  /-- Whether the value is below zero. -/
  negative : Bool
  /-- All digits as one number. -/
  mantissa : Nat
  /-- How many of the digits are decimal places. -/
  scale : Nat
  /-- The mantissa has 96 bits. -/
  mantissa_lt : mantissa < 0x1000000000000000000000000
  /-- There are at most 28 decimal places. -/
  scale_le : scale ≤ 28
  deriving DecidableEq

namespace Decimal

/-- The decimal with the given parts, if they are in range.  Zero has no sign. -/
def ofParts? (negative : Bool) (mantissa scale : Nat) : Option Decimal :=
  if h : mantissa < 0x1000000000000000000000000 ∧ scale ≤ 28 then
    some ⟨negative && mantissa != 0, mantissa, scale, h.1, h.2⟩
  else none

/-- The value in units of 10^-28. -/
def units (d : Decimal) : Int :=
  let n : Nat := d.mantissa * Nat.pow 10 (28 - d.scale)
  if d.negative then -n else n

/-- Order by value. -/
def order (x y : Decimal) : Ordering := compare x.units y.units

/-- The whole number nearest to `n / d`, a half going up. -/
def roundHalfUp (n d : Nat) : Nat := (2 * n + d) / (2 * d)

/-- The decimal of a text written in full. -/
def ofFull? (negative : Bool) (s : Scientific) : Option Decimal :=
  if 0 ≤ s.exponent then ofParts? negative (s.digits * Nat.pow 10 (s.exponent.toNat + 1)) 1
  else ofParts? negative s.digits (-s.exponent).toNat

/-- The decimal of a text written with an exponent. -/
def ofExponential? (negative : Bool) (s : Scientific) : Option Decimal :=
  if s.leading < -28 ∨ 28 < s.leading then none
  else if 0 ≤ s.exponent then ofParts? negative (s.digits * Nat.pow 10 s.exponent.toNat) 0
  else if -28 ≤ s.exponent then ofParts? negative s.digits (-s.exponent).toNat
  else ofParts? negative (roundHalfUp s.digits (Nat.pow 10 (-28 - s.exponent).toNat)) 28

/-- The text of a decimal, with all its places. -/
def write (d : Decimal) : List Char :=
  (if d.negative then ['-'] else []) ++
    (if d.scale = 0 then Digits.write d.mantissa else Number.pointed d.mantissa d.scale)

end Decimal

namespace Number

/-- The decimal a number is compared as. -/
def toDecimal? : Number → Option Decimal
  | integer i _ => Decimal.ofParts? (i < 0) i.natAbs 0
  | float x =>
    let s := x.shortest
    if InFull s then Decimal.ofFull? x.negative s else Decimal.ofExponential? x.negative s

/-- Order by value: as decimals if both are, else as binary64 numbers. -/
def order? (x y : Number) : Option Ordering :=
  match x.toDecimal?, y.toDecimal? with
  | some a, some b => some (a.order b)
  | _, _ => do return (← x.nearest?).order (← y.nearest?)

example : ((read? "2.5e-28".toList).bind toDecimal?).map Decimal.write =
    some "0.0000000000000000000000000003".toList := by decide +kernel
example : ((read? "8e28".toList).bind toDecimal?) = none := by decide +kernel
example : ((read? "-0.0".toList).bind toDecimal?).map Decimal.write = some "0.0".toList := by
  decide +kernel

end Number

end SurveyDispatch
