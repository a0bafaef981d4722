import SurveyDispatch.Number.Shortest
import SurveyDispatch.Text.Digits

/-!
# Numbers of documents

A number in a document is a whole number or a binary64 number, and stays what it was read as: 5 and
5.0 are different numbers that are written differently.  Whole numbers cover the signed and the
unsigned 64-bit range.

A text is a whole number if it has neither a fraction nor an exponent and is in range.  Minus zero
and every other text is a binary64 number.  Its digits are collected up to 64 bits, then scaled by
the power of ten (`Binary64.ofScaled?`).  Digits of the whole part beyond 64 bits count as zeros,
digits of the fraction beyond 64 bits are left out.  A number that is too large is refused.

A binary64 number is written with its shortest digits, in full where its leading power of ten is
from -5 to 15 and with an exponent elsewhere.
-/

namespace SurveyDispatch

/-- The range of whole numbers: 64 bits, signed or unsigned. -/
def Number.InRange (i : Int) : Prop := -0x8000000000000000 ≤ i ∧ i < 0x10000000000000000

instance (i : Int) : Decidable (Number.InRange i) := by unfold Number.InRange; infer_instance

/-- A number in a document. -/
inductive Number where
  /-- A whole number. -/
  | integer (value : Int) (inRange : Number.InRange value)
  /-- A binary64 number. -/
  | float (value : Binary64)
  deriving DecidableEq

namespace Number

/-! ## Writing -/

/-- The least and the greatest leading power of ten of numbers that are written in full. -/
def fullFrom : Int := -5

@[inherit_doc fullFrom]
def fullTo : Int := 15

/-- Whether a decimal is written in full. -/
def InFull (s : Scientific) : Prop := fullFrom ≤ s.leading ∧ s.leading ≤ fullTo

instance (s : Scientific) : Decidable (InFull s) := by unfold InFull; infer_instance

/-- Digits with a point before the last `places` of them and at least one digit before the
point. -/
def pointed (digits places : Nat) : List Char :=
  let ds := Digits.writePadded (places + 1) digits
  ds.take (ds.length - places) ++ '.' :: ds.drop (ds.length - places)

/-- A decimal in full, with at least one digit after the point. -/
def writeInFull (s : Scientific) : List Char :=
  if 0 ≤ s.exponent then pointed (s.digits * Nat.pow 10 (s.exponent.toNat + 1)) 1
  else pointed s.digits (-s.exponent).toNat

/-- A decimal with one digit before the point and a signed exponent. -/
def writeWithExponent (s : Scientific) : List Char :=
  let mantissa := if s.size = 1 then Digits.write s.digits else pointed s.digits (s.size - 1)
  mantissa ++ 'e' :: (if 0 ≤ s.leading then '+' else '-') :: Digits.write s.leading.natAbs

/-- The text of a binary64 number. -/
def writeFloat (x : Binary64) : List Char :=
  let s := x.shortest
  (if x.negative then ['-'] else []) ++ (if InFull s then writeInFull s else writeWithExponent s)

/-- The text of a number. -/
def write : Number → List Char
  | integer i _ => (if i < 0 then ['-'] else []) ++ Digits.write i.natAbs
  | float x => writeFloat x

/-! ## Reading -/

/-- The parts of a number text. -/
structure Literal where
  /-- Whether it starts with a minus sign. -/
  negative : Bool
  /-- The digits before the point. -/
  whole : List Char
  /-- The digits after the point.  None if there is no point. -/
  fraction : Option (List Char)
  /-- The exponent.  None if there is no exponent mark. -/
  exponent : Option Int

/-- Takes a sign off a text.  Without one the text is not negative. -/
def splitSign : List Char → Bool × List Char
  | '-' :: rest => (true, rest)
  | '+' :: rest => (false, rest)
  | rest => (false, rest)

/-- Takes a point and the digits after it off a text. -/
def splitFraction : List Char → Option (List Char) × List Char
  | '.' :: rest => (some (Digits.split rest).1, (Digits.split rest).2)
  | rest => (none, rest)

/-- Reads an exponent that takes up the whole of a text.  The empty text has none. -/
def readExponent? : List Char → Option (Option Int)
  | [] => some none
  | mark :: rest =>
    if mark = 'e' ∨ mark = 'E' then do
      let (negative, digits) := splitSign rest
      let n ← Digits.value? digits
      return some (if negative then -n else n)
    else none

/-- The whole part has no needless zero in front. -/
def wholeAllowed : List Char → Bool
  | [] => false
  | '0' :: rest => rest.isEmpty
  | _ => true

/-- Splits a number text.  At least one digit is needed before the point, after the point and
after the exponent mark. -/
def Literal.read? (text : List Char) : Option Literal := do
  let (negative, text) := match text with
    | '-' :: rest => (true, rest)
    | _ => (false, text)
  let (whole, text) := Digits.split text
  let (fraction, text) := splitFraction text
  let exponent ← readExponent? text
  if wholeAllowed whole ∧ fraction ≠ some [] then some ⟨negative, whole, fraction, exponent⟩
  else none

/-- Collects the digits of a whole part up to 64 bits.  The second part counts the digits that did
not fit. -/
def collectWhole (digits : List Char) : Nat × Nat :=
  digits.foldl (fun (n, dropped) d =>
    if dropped = 0 ∧ 10 * n + Digits.digit d < 0x10000000000000000 then (10 * n + Digits.digit d, 0)
    else (n, dropped + 1)) (0, 0)

/-- Collects the digits of a fraction behind a number, up to 64 bits.  The second part counts the
digits collected. -/
def collectFraction (n : Nat) : List Char → Nat × Nat
  | [] => (n, 0)
  | d :: rest =>
    if 10 * n + Digits.digit d < 0x10000000000000000 then
      let (m, taken) := collectFraction (10 * n + Digits.digit d) rest
      (m, taken + 1)
    else (n, 0)

/-- The binary64 number of a literal. -/
def Literal.toFloat? (l : Literal) : Option Binary64 :=
  let (n, dropped) := collectWhole l.whole
  let (n, taken) := collectFraction n (l.fraction.getD [])
  Binary64.ofScaled? l.negative n ((dropped : Int) - taken + l.exponent.getD 0)

/-- The whole number, if it is in range. -/
def ofInt? (i : Int) : Option Number := if h : InRange i then some (integer i h) else none

/-- The whole number of a literal.  Minus zero is none. -/
def Literal.toInt? (l : Literal) : Option Number :=
  let n := Digits.value l.whole
  if l.fraction = none ∧ l.exponent = none ∧ ¬(l.negative ∧ n = 0) then
    ofInt? (if l.negative then -n else n)
  else none

/-- Reads a number that takes up the whole of a text. -/
def read? (text : List Char) : Option Number := do
  let l ← Literal.read? text
  match l.toInt? with
  | some n => some n
  | none => l.toFloat?.map float

/-! ## Values -/

/-- The nearest binary64 number. -/
def nearest? : Number → Option Binary64
  | integer i _ => Binary64.ofInt? i
  | float x => some x

/-- Whether the value is zero. -/
def isZero : Number → Bool
  | integer i _ => i == 0
  | float x => x.isZero

/-- A natural number that fits 64 bits, as a number.  A larger one is cut to 64 bits. -/
def ofNat (n : Nat) : Number :=
  integer (n % 0x10000000000000000) ⟨by omega, by omega⟩

example : (read? "5.0".toList).map write = some "5.0".toList := by decide +kernel
example : (read? "18446744073709551615".toList).map write =
    some "18446744073709551615".toList := by decide +kernel
example : (read? "18446744073709551616".toList).map write =
    some "1.8446744073709552e+19".toList := by decide +kernel
example : (read? "-0".toList).map write = some "-0.0".toList := by decide +kernel
example : (read? "0.00001".toList).map write = some "0.00001".toList := by decide +kernel
example : (read? "15e-7".toList).map write = some "1.5e-6".toList := by decide +kernel
example : read? "01".toList = none := by decide +kernel
example : read? "1e400".toList = none := by decide +kernel

end Number

end SurveyDispatch
