import SurveyDispatch.Text.Ascii

/-!
# Hexadecimal digits

Numbers in a base of at most sixteen, and characters given by their number.
-/

namespace SurveyDispatch.Hexadecimal

/-- The value of a digit of either case. -/
def digit? (c : Char) : Option Nat :=
  if c.toNat < 0x100 then Ascii.hexValue? (.ofNat c.toNat) else none

/-- The number that at least one digit denotes in a base of at most sixteen. -/
def number? (base : Nat) (digits : List Char) : Option Nat := do
  let values ← digits.mapM fun c => (digit? c).filter (· < base)
  if values.isEmpty then none else some (values.foldl (fun n d => base * n + d) 0)

/-- The character whose number is written in digits. -/
def char? (digits : List Char) : Option Char := do
  let n ← number? 16 digits
  if h : n.isValidChar then some (Char.ofNatAux n h) else none

/-- The character whose number takes up the given number of digits at the front of a text. -/
def readChar? (size : Nat) (text : List Char) : Option (Char × List Char) :=
  if size ≤ text.length then do return (← char? (text.take size), text.drop size) else none

example : char? "00e9".toList = some 'é' := by decide
example : char? "d800".toList = none := by decide
example : number? 8 "17".toList = some 15 := by decide
example : number? 8 "8".toList = none := by decide

end SurveyDispatch.Hexadecimal
