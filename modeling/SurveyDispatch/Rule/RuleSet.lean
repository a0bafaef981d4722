import SurveyDispatch.Rule.Predicate
import SurveyDispatch.Rule.Alert

/-!
# Rule sets

A rule applies a predicate to the value at a path, possibly inverted.  A rule set passes when all
its rules do, so one without rules always passes.  It may carry an alert and a routing payload.

Lists of rule sets are evaluated under two policies.  `firstMatch` stops at the first one that
passes and gives its alert.  `lastMatch` evaluates all of them and gives the payload of the last
one that passes, so that later routes override earlier ones.  Each policy keeps a trace of what it
evaluated.
-/

namespace SurveyDispatch

/-- A predicate on the value at a path. -/
structure Rule where
  /-- The path. -/
  target : String
  /-- The predicate. -/
  predicate : Predicate
  /-- Whether the rule passes when the predicate fails. -/
  inverted : Bool

/-- The rule that passes where this one fails. -/
def Rule.invert (r : Rule) : Rule := { r with inverted := !r.inverted }

/-- Whether a rule passes. -/
def Rule.passes (r : Rule) (record : Document) : Bool :=
  r.predicate.test (record.resolve r.target) != r.inverted

/-- A conjunction of rules. -/
structure RuleSet where
  /-- The rules. -/
  rules : List Rule
  /-- The alert of a record that passes. -/
  alert : Option Alert
  /-- The routing payload of a record that passes. -/
  routing : Option Document

/-- Whether all rules pass. -/
def RuleSet.passes (s : RuleSet) (record : Document) : Bool := s.rules.all (·.passes record)

/-! ## Traces -/

/-- The indexes of rule sets in the order of their evaluation. -/
structure Trace where
  /-- Those that were evaluated. -/
  evaluated : List Nat
  /-- Those of them that passed. -/
  passed : List Nat
  deriving DecidableEq, Repr

namespace Trace

/-- Nothing evaluated. -/
def empty : Trace := ⟨[], []⟩

/-- Adds an evaluation. -/
def record (t : Trace) (index : Nat) (passed : Bool) : Trace :=
  ⟨t.evaluated ++ [index], if passed then t.passed ++ [index] else t.passed⟩

/-- The last one that passed. -/
def lastPassed? (t : Trace) : Option Nat := t.passed.getLast?

end Trace

/-! ## Policies -/

/-- Whether some rule set passed, and the alert of the first one that did. -/
structure Verdict where
  /-- Whether some rule set passed. -/
  matched : Bool
  /-- The alert, if the rule set has one. -/
  message : Option String
  deriving DecidableEq, Repr

namespace RuleSet

/-- Evaluates rule sets from an index on until one passes. -/
def firstMatchFrom (record : Document) : Nat → List RuleSet → Trace → Verdict × Trace
  | _, [], trace => (⟨false, none⟩, trace)
  | index, s :: rest, trace =>
    if s.passes record then
      (⟨true, s.alert.map (·.render record)⟩, trace.record index true)
    else firstMatchFrom record (index + 1) rest (trace.record index false)

/-- The first rule set that passes decides. -/
def firstMatchTraced (record : Document) (sets : List RuleSet) (trace : Trace) : Verdict × Trace :=
  firstMatchFrom record 0 sets trace

/-- The first rule set that passes decides. -/
def firstMatch (record : Document) (sets : List RuleSet) : Verdict :=
  (firstMatchTraced record sets .empty).1

/-- Evaluates rule sets from an index on.  The payload of one that passes replaces the selection,
also where it has none. -/
def lastMatchFrom (record : Document) :
    Nat → List RuleSet → Option Document → Trace → Option Document × Trace
  | _, [], selected, trace => (selected, trace)
  | index, s :: rest, selected, trace =>
    let passed := s.passes record
    lastMatchFrom record (index + 1) rest (if passed then s.routing else selected)
      (trace.record index passed)

/-- The last rule set that passes gives its payload, and the default stands in for none. -/
def lastMatchTraced (record : Document) (sets : List RuleSet) (default : Option Document)
    (trace : Trace) : Option Document × Trace :=
  let (selected, trace) := lastMatchFrom record 0 sets none trace
  (selected.or default, trace)

/-- The last rule set that passes gives its payload, and the default stands in for none. -/
def lastMatch (record : Document) (sets : List RuleSet) (default : Option Document) :
    Option Document :=
  (lastMatchTraced record sets default .empty).1

end RuleSet

end SurveyDispatch
