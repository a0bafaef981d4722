import SurveyDispatch.Number.Basic

/-!
# Binary64 numbers with infinities

Coordinates and configured numbers may be written as texts that name an infinity or no number at
all.  Such a text has an optional sign, then `inf`, `infinity` or `nan` in letters of either case,
or digits with at most one point among or around them and an optional exponent.  It is read as the
nearest number, and as an infinity if it is too large.
-/

namespace SurveyDispatch

/-- A binary64 number, an infinity or no number. -/
inductive Real64 where
  /-- A finite number. -/
  | finite (value : Binary64)
  /-- An infinity. -/
  | infinite (negative : Bool)
  /-- No number. -/
  | undefined
  deriving DecidableEq

/-- Why a text is not read as a number. -/
inductive RealFault where
  /-- The text is empty. -/
  | empty
  /-- The text is not a number. -/
  | malformed
  deriving DecidableEq, Repr

/-- The wording of a fault. -/
def RealFault.message : RealFault → String
  | empty => "cannot parse float from empty string"
  | malformed => "invalid float literal"

namespace Real64

/-- The number nearest to a decimal, or an infinity beyond the range. -/
def ofDecimal (negative : Bool) (digits : Nat) (exponent : Int) : Real64 :=
  match Binary64.ofDecimal? negative digits exponent with
  | some x => finite x
  | none => infinite negative

/-- Reads digits with a point and an exponent. -/
def readDecimal? (negative : Bool) (text : List Char) : Option Real64 := do
  let (whole, text) := Digits.split text
  let (fraction, text) := Number.splitFraction text
  let exponent ← Number.readExponent? text
  let places := fraction.getD []
  let power : Int := exponent.getD 0 - places.length
  if whole ++ places = [] then none
  else return ofDecimal negative (Digits.value (whole ++ places)) power

/-- Reads a number without its sign. -/
def readUnsigned? (negative : Bool) (text : List Char) : Option Real64 :=
  let word := String.ofList (text.map Char.toLower)
  if word = "inf" ∨ word = "infinity" then some (infinite negative)
  else if word = "nan" then some undefined
  else readDecimal? negative text

/-- Reads a number. -/
def read (text : List Char) : Except RealFault Real64 :=
  if text.isEmpty then .error .empty
  else
    let (negative, text) := Number.splitSign text
    match readUnsigned? negative text with
    | some x => .ok x
    | none => .error .malformed

example : (read "5.".toList).toOption = some (ofDecimal false 5 0) := by decide +kernel
example : (read "+.5".toList).toOption = some (ofDecimal false 5 (-1)) := by decide +kernel
example : (read "-1e400".toList).toOption = some (infinite true) := by decide +kernel
example : (read ".".toList).toOption = none := by decide +kernel

end Real64

end SurveyDispatch
