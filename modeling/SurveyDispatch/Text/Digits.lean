/-!
# Decimal digits

A natural number is read from a run of ASCII digits and written as one, with leading zeros up to a
width where a width is asked for.
-/

namespace SurveyDispatch.Digits

/-- The value of a digit. -/
def digit (c : Char) : Nat := c.toNat - '0'.toNat

/-- The number that a run of digits denotes. -/
def value (ds : List Char) : Nat := Nat.ofDigitChars 10 ds 0

/-- The number that a text of at least one digit and nothing else denotes. -/
def value? (ds : List Char) : Option Nat :=
  if ds ≠ [] ∧ ds.all Char.isDigit then some (value ds) else none

/-- The digits of a number. -/
def write (n : Nat) : List Char := Nat.toDigits 10 n

/-- The digits of a number, with leading zeros up to a width. -/
def writePadded (width n : Nat) : List Char :=
  List.replicate (width - (write n).length) '0' ++ write n

/-- The digits at the start of a text, and what follows them. -/
def split (cs : List Char) : List Char × List Char :=
  (cs.takeWhile Char.isDigit, cs.dropWhile Char.isDigit)

example : value ['0', '4', '2'] = 42 := by decide
example : value? ['4', 'x'] = none := by decide
example : writePadded 3 7 = ['0', '0', '7'] := by decide

end SurveyDispatch.Digits
