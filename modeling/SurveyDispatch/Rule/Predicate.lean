import SurveyDispatch.Document.Path

/-!
# Predicates

A predicate tests the value that a rule finds at its path.  Which predicate it is, is written by
name in the rules, in letters of either case.  A predicate carries its literal, so one that has
been bound can always be tested.

An absent value is tested as null: `empty` passes, `equals` passes only against null, and the two
orders fail.
-/

namespace SurveyDispatch

/-- What a predicate asks for. -/
inductive Comparison where
  /-- The value is absent or null. -/
  | empty
  /-- The value equals the literal. -/
  | equals
  /-- The value comes after the literal. -/
  | bigger
  /-- The value comes before the literal. -/
  | smaller
  deriving DecidableEq, Repr

namespace Comparison

/-- The name in reports. -/
def name : Comparison → String
  | empty => "EMPTY"
  | equals => "EQUALS"
  | bigger => "BIGGER"
  | smaller => "SMALLER"

/-- The comparison with a name, in letters of either case. -/
def ofName? (s : String) : Option Comparison :=
  [empty, equals, bigger, smaller].find? fun c => s.toList.map Char.toUpper == c.name.toList

/-- How many literals it takes. -/
def arity : Comparison → Nat
  | empty => 0
  | equals | bigger | smaller => 1

end Comparison

/-- A comparison with its literal. -/
inductive Predicate where
  /-- The value is absent or null. -/
  | empty
  /-- The value equals the literal. -/
  | equals (literal : Document)
  /-- The value comes after the literal. -/
  | bigger (literal : Document)
  /-- The value comes before the literal. -/
  | smaller (literal : Document)

/-- Gives a comparison its literals.  Their number must be its arity. -/
def Comparison.bind? : Comparison → List Document → Option Predicate
  | .empty, [] => some .empty
  | .equals, [d] => some (.equals d)
  | .bigger, [d] => some (.bigger d)
  | .smaller, [d] => some (.smaller d)
  | _, _ => none

namespace Predicate

/-- What the predicate asks for. -/
def comparison : Predicate → Comparison
  | empty => .empty
  | equals _ => .equals
  | bigger _ => .bigger
  | smaller _ => .smaller

/-- Tests a value that is there. -/
def holdsOf : Predicate → Document → Bool
  | empty, d => d.isNull
  | equals literal, d => d.sameValue literal
  | bigger literal, d => d.order? literal == some .gt
  | smaller literal, d => d.order? literal == some .lt

/-- Tests a value that may be absent. -/
def test (p : Predicate) (value : Option Document) : Bool := p.holdsOf (value.getD .null)

end Predicate

example : Comparison.ofName? "sMaLlEr" = some .smaller := by decide
example : Predicate.empty.test none = true := by decide

end SurveyDispatch
