import SurveyDispatch.Number.Binary64

/-!
# The shortest decimal of a binary64 number

A decimal stands for a binary64 number when the number is the nearest one to it, so that reading
the decimal gives the number back.  `Binary64.shortest` picks the decimal that a number is written
with.  It starts from a power of ten above the number and goes through the grids of the multiples
of that power, of a tenth of it, of a hundredth and so on.  It stops at the first grid that has
such a decimal, so no decimal with fewer digits stands for the number.  Of two decimals of that
grid the nearer is taken, and of two equally near ones the even.

Seventeen digits always suffice.  The exact decimal that ends the search is there to make it
total.
-/

namespace SurveyDispatch

/-- The decimal `digits * 10 ^ exponent`. -/
structure Scientific where
  /-- The digits, as one natural number. -/
  digits : Nat
  /-- The power of ten of the last digit. -/
  exponent : Int
  deriving DecidableEq, Repr

namespace Scientific

/-- How many digits there are. -/
def size (s : Scientific) : Nat := Binary64.digitCount s.digits

/-- The power of ten of the first digit. -/
def leading (s : Scientific) : Int := s.exponent + s.size - 1

end Scientific

namespace Binary64

/-- The decimal stands for the absolute value of the number. -/
def StandsFor (s : Scientific) (x : Binary64) : Prop :=
  ofDecimal? false s.digits s.exponent = some (x.withSign false)

instance (s : Scientific) (x : Binary64) : Decidable (StandsFor s x) := by
  unfold StandsFor; infer_instance

/-- The absolute value counted in units of 10^`exponent`, as a fraction. -/
def inPowersOfTen (x : Binary64) (exponent : Int) : Nat × Nat :=
  if 0 ≤ exponent then (x.magnitude, unitsPerOne * Nat.pow 10 exponent.toNat)
  else (x.magnitude * Nat.pow 10 (-exponent).toNat, unitsPerOne)

/-- The neighbour of `n / d` that is nearer, a tie going to the even one. -/
def nearerIsAbove (n d : Nat) : Bool :=
  d < 2 * (n % d) || (2 * (n % d) == d && n / d % 2 == 1)

/-- The decimal of a grid that is written for the number, if one stands for it.  Only the two
neighbours of the number on the grid can. -/
def onGrid? (x : Binary64) (exponent : Int) : Option Scientific :=
  let (n, d) := x.inPowersOfTen exponent
  let below : Scientific := ⟨n / d, exponent⟩
  let above : Scientific := ⟨n / d + 1, exponent⟩
  let nearer := if nearerIsAbove n d then above else below
  let other := if nearerIsAbove n d then below else above
  if StandsFor nearer x then some nearer
  else if StandsFor other x then some other
  else none

/-- The decimal of the first grid that has one, among the given number of grids downwards. -/
def firstGrid (x : Binary64) (exponent : Int) : Nat → Scientific
  | 0 => ⟨x.magnitude * Nat.pow 5 1074, -1074⟩
  | grids + 1 => (x.onGrid? exponent).getD (x.firstGrid (exponent - 1) grids)

/-- An exponent whose power of ten is above a number, by a factor below a thousand.  One bit is
about 0.30103 decimal digits. -/
def above (x : Binary64) : Int := ((x.magnitude.log2 : Int) - 1073) * 30103 / 100000 + 2

/-- The decimal that the absolute value of a number is written with. -/
def shortest (x : Binary64) : Scientific :=
  if x.isZero then ⟨0, 0⟩ else x.firstGrid x.above 21

example : (ofDecimal? false 5 (-324)).map shortest = some ⟨5, -324⟩ := by decide +kernel
example : (ofRatio? false 3 10).map shortest = some ⟨3, -1⟩ := by decide +kernel
example : (ofRatio? false 0x20000000000000 1).map shortest = some ⟨9007199254740992, 0⟩ := by
  decide +kernel
example : (ofRatio? false 0x10000000000000000 1).map shortest = some ⟨18446744073709552, 3⟩ := by
  decide +kernel

end Binary64

end SurveyDispatch
