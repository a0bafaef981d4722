import SurveyDispatch.Document.Basic
import SurveyDispatch.Text.Hexadecimal

/-!
# Numbers in TOML

A whole number is written in base ten with an optional sign, or without one in base sixteen, eight
or two behind `0x`, `0o` or `0b`, and fits 64 bits with a sign.  A number with a fraction or an
exponent is read as the nearest binary64 number.  Single underscores may stand between digits.

A positive number that is too large is an error.  A negative one is minus infinity, which like
`inf` and `nan` has no value in a document, so that it becomes null.
-/

namespace SurveyDispatch.Toml

/-- The digits of a run in which single underscores may stand between digits. -/
def digitRun? (isDigit : Char → Bool) : List Char → Option (List Char)
  | [] => none
  | [d] => if isDigit d then some [d] else none
  | d :: '_' :: rest => if isDigit d then (digitRun? isDigit rest).map (d :: ·) else none
  | d :: rest => if isDigit d then (digitRun? isDigit rest).map (d :: ·) else none

/-- A whole number that fits 64 bits with a sign. -/
def wholeNumber? (i : Int) : Option Document :=
  if -0x8000000000000000 ≤ i ∧ i < 0x8000000000000000 then (Number.ofInt? i).map .number else none

/-- A whole number in a base of at most sixteen. -/
def readBased? (base : Nat) (word : List Char) : Option Document := do
  let digits ← digitRun? (fun c => (Hexadecimal.digit? c).any (· < base)) word
  wholeNumber? (← Hexadecimal.number? base digits)

/-- Splits a word behind the digits and underscores at its front. -/
def splitRun (word : List Char) : List Char × List Char :=
  word.span fun c => c.isDigit || c == '_'

/-- The exponent that makes up a word.  The empty word is none. -/
def readExponent? : List Char → Option Int
  | [] => some 0
  | mark :: rest =>
    if mark = 'e' ∨ mark = 'E' then do
      let (negative, word) := Number.splitSign rest
      let n := Digits.value (← digitRun? Char.isDigit word)
      return if negative then -n else n
    else none

/-- A binary64 number, given by its digits and a power of ten. -/
def scaledNumber? (negative : Bool) (digits : List Char) (exponent : Int) : Option Document :=
  match Real64.ofDecimal negative (Digits.value digits) exponent with
  | .infinite false => none
  | x => some (.ofReal x)

/-- A number in base ten without its sign. -/
def readUnsigned? (negative : Bool) (word : List Char) : Option Document := do
  let (whole, rest) := splitRun word
  let digits ← digitRun? Char.isDigit whole
  if !Number.wholeAllowed whole then failure
  match rest with
  | [] =>
    let n : Int := Digits.value digits
    wholeNumber? (if negative then -n else n)
  | '.' :: rest =>
    let (fraction, rest) := splitRun rest
    let places ← digitRun? Char.isDigit fraction
    scaledNumber? negative (digits ++ places) ((← readExponent? rest) - places.length)
  | rest => scaledNumber? negative digits (← readExponent? rest)

/-- The number that makes up a word. -/
def readNumber? : List Char → Option Document
  | '0' :: 'x' :: word => readBased? 16 word
  | '0' :: 'o' :: word => readBased? 8 word
  | '0' :: 'b' :: word => readBased? 2 word
  | word =>
    let (negative, word) := Number.splitSign word
    if word = ['i', 'n', 'f'] ∨ word = ['n', 'a', 'n'] then some .null
    else readUnsigned? negative word

example : (readNumber? "-1_000".toList).map Document.kind = some "number" := by decide +kernel
example : (readNumber? "0x7fff_ffff_ffff_ffff".toList).isSome := by decide +kernel
example : (readNumber? "0x8000_0000_0000_0000".toList).isSome = false := by decide +kernel
example : (readNumber? "1.5e+3".toList).isSome := by decide +kernel
example : (readNumber? "01".toList).isSome = false := by decide +kernel
example : (readNumber? "1__0".toList).isSome = false := by decide +kernel
example : (readNumber? "1.".toList).isSome = false := by decide +kernel
example : (readNumber? "1e400".toList).isSome = false := by decide +kernel
example : (readNumber? "-1e400".toList).map Document.kind = some "null" := by decide +kernel

end SurveyDispatch.Toml
