import SurveyDispatch.Rule.RuleSet
import SurveyDispatch.Document.Fields

/-!
# Rule configurations

Rules are configured by documents with known fields.  This module holds what such a document says,
reads it from a document and writes it as one.  Writing names every field, with null for an absent
optional value.

`RuleSetEntry.toRuleSets` turns what a document says into rule sets, or names the first fault: the
first faulty set, in it the first faulty rule, and its alert only if all its rules are good.
-/

namespace SurveyDispatch

/-! ## What a document says -/

/-- A rule as configured. -/
structure RuleEntry where
  /-- The path of the value to test. -/
  target : String
  /-- The name of the predicate. -/
  type : String
  /-- The literals of the predicate. -/
  arguments : List Document
  /-- Whether the rule is inverted. -/
  inverted : Bool

/-- An alert as configured. -/
structure AlertEntry where
  /-- The template. -/
  message : String
  /-- The path of each variable. -/
  paths : Dictionary String

/-- A rule set as configured. -/
structure RuleSetEntry where
  /-- The rules. -/
  rules : List RuleEntry
  /-- The alert. -/
  alert : Option AlertEntry
  /-- The routing payload. -/
  routing : Option Document

/-- The exclusions and routes of an engine as configured. -/
structure EngineEntry where
  /-- The rule sets that exclude a submission. -/
  exclusions : List RuleSetEntry
  /-- The rule sets that route a submission. -/
  routes : List RuleSetEntry
  /-- The payload of a submission that no route takes. -/
  defaultRoute : Option Document

/-- Nothing configured. -/
def EngineEntry.none : EngineEntry := ⟨[], [], .none⟩

/-! ## Reading -/

open Document

/-- Reads a rule. -/
def RuleEntry.ofDocument? (c : Conventions) (d : Document) : Option RuleEntry := do
  match ← d.fieldValues? c [["target"], ["type"], ["type_args"], ["invert"]] with
  | [target, type, arguments, inverted] =>
    return ⟨← required asText? target, ← required asText? type,
      ← orElse [] (asList? some) arguments, ← orElse false asBool? inverted⟩
  | _ => failure

/-- Reads an alert. -/
def AlertEntry.ofDocument? (c : Conventions) (d : Document) : Option AlertEntry := do
  match ← d.fieldValues? c [["message"], ["variables"]] with
  | [message, paths] =>
    return ⟨← orElse "" asText? message, ← orElse .empty asDictionary? paths⟩
  | _ => failure

/-- Reads a rule set. -/
def RuleSetEntry.ofDocument? (c : Conventions) (d : Document) : Option RuleSetEntry := do
  match ← d.fieldValues? c [["rule_set"], ["alert"], ["routing_data", "routing"]] with
  | [rules, alert, routing] =>
    return ⟨← orElse [] (asList? (RuleEntry.ofDocument? c)) rules,
      ← optional c (AlertEntry.ofDocument? c) alert, ← optional c some routing⟩
  | _ => failure

/-- Reads an engine. -/
def EngineEntry.ofDocument? (c : Conventions) (d : Document) : Option EngineEntry := do
  match ← d.fieldValues? c [["exclude_rules"], ["routes"], ["default_route"]] with
  | [exclusions, routes, defaultRoute] =>
    return ⟨← orElse [] (asList? (RuleSetEntry.ofDocument? c)) exclusions,
      ← orElse [] (asList? (RuleSetEntry.ofDocument? c)) routes,
      ← optional c some defaultRoute⟩
  | _ => failure

/-! ## Writing -/

/-- Writes a rule. -/
def RuleEntry.toDocument (e : RuleEntry) : Document :=
  .record [("target", .text e.target), ("type", .text e.type), ("type_args", .list e.arguments),
    ("invert", .bool e.inverted)]

/-- Writes an alert. -/
def AlertEntry.toDocument (e : AlertEntry) : Document :=
  .record [("message", .text e.message), ("variables", ofDictionary e.paths)]

/-- Writes a rule set. -/
def RuleSetEntry.toDocument (e : RuleSetEntry) : Document :=
  .record [("rule_set", .list (e.rules.map RuleEntry.toDocument)),
    ("alert", ofOption AlertEntry.toDocument e.alert), ("routing_data", ofOption id e.routing)]

/-- Writes an engine. -/
def EngineEntry.toDocument (e : EngineEntry) : Document :=
  .record [("exclude_rules", .list (e.exclusions.map RuleSetEntry.toDocument)),
    ("routes", .list (e.routes.map RuleSetEntry.toDocument)),
    ("default_route", ofOption id e.defaultRoute)]

/-! ## Rule sets of a configuration -/

/-- What is wrong with a rule configuration. -/
inductive RuleFault where
  /-- A rule names no predicate. -/
  | unknownPredicate (set rule : Nat) (type : String)
  /-- A predicate has the wrong number of literals. -/
  | argumentCount (set rule : Nat) (comparison : Comparison) (got : Nat)
  /-- A placeholder of an alert names no variable. -/
  | undeclaredVariable (set : Nat) (name : String)
  /-- The template of an alert is malformed. -/
  | malformedAlert (set : Nat) (fault : TemplateFault)
  /-- A route has no payload. -/
  | missingRouting (set : Nat)
  /-- The document does not have the fields of rule sets. -/
  | malformed
  deriving DecidableEq, Repr

/-- The wording of a fault. -/
def RuleFault.message : RuleFault → String
  | unknownPredicate set rule type =>
    s!"rule set {set}, rule {rule}: unknown predicate type '{type}'"
  | argumentCount set rule comparison got =>
    s!"rule set {set}, rule {rule}: predicate {comparison.name} takes " ++
      s!"{comparison.arity} argument(s), got {got}"
  | undeclaredVariable set name =>
    s!"rule set {set}: alert message references undeclared variable '{name}'"
  | malformedAlert set fault => s!"rule set {set}: malformed alert message: {fault.message}"
  | missingRouting set => s!"route {set}: missing routing_data"
  | malformed => "malformed rule configuration"

/-- Applies a function to each item and its index, up to the first error. -/
def mapIndexed {α β ε : Type} (f : Nat → α → Except ε β) : Nat → List α → Except ε (List β)
  | _, [] => .ok []
  | index, a :: rest => do
    let b ← f index a
    return b :: (← mapIndexed f (index + 1) rest)

/-- The rule at a place of a configuration. -/
def RuleEntry.toRule (set rule : Nat) (e : RuleEntry) : Except RuleFault Rule :=
  match Comparison.ofName? e.type with
  | none => .error (.unknownPredicate set rule e.type)
  | some comparison =>
    match comparison.bind? e.arguments with
    | none => .error (.argumentCount set rule comparison e.arguments.length)
    | some predicate => .ok ⟨e.target, predicate, e.inverted⟩

/-- The fault of an alert at a place of a configuration. -/
def AlertFault.at (set : Nat) : AlertFault → RuleFault
  | malformed fault => .malformedAlert set fault
  | undeclared name => .undeclaredVariable set name

/-- The alert at a place of a configuration. -/
def AlertEntry.toAlert (set : Nat) (e : AlertEntry) : Except RuleFault Alert :=
  (Alert.ofTemplate e.message e.paths).mapError (·.at set)

/-- The rule set at a place of a configuration. -/
def RuleSetEntry.toRuleSet (set : Nat) (e : RuleSetEntry) : Except RuleFault RuleSet := do
  let rules ← mapIndexed (RuleEntry.toRule set) 0 e.rules
  let alert ← match e.alert with
    | some a => some <$> a.toAlert set
    | none => pure none
  return ⟨rules, alert, e.routing⟩

/-- The rule sets of a configuration. -/
def RuleSetEntry.toRuleSets (es : List RuleSetEntry) : Except RuleFault (List RuleSet) :=
  mapIndexed RuleSetEntry.toRuleSet 0 es

/-- The rule sets of a document that lists them, such as a query. -/
def RuleSet.ofDocument (d : Document) : Except RuleFault (List RuleSet) :=
  match asList? (RuleSetEntry.ofDocument? .json) d with
  | some es => RuleSetEntry.toRuleSets es
  | none => .error .malformed

end SurveyDispatch
