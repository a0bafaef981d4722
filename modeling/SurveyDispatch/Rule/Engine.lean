import SurveyDispatch.Rule.Configuration

/-!
# The rule engine

An engine screens submissions by its exclusions and routes them by its routes.  Every route of a
configured engine has a payload, so the default route only stands in where no route passes.

The topic of a payload is the payload itself if it is a text, and its field `topic` if it is a
record.  Where the selected payload names no topic, the default route is asked.
-/

namespace SurveyDispatch

/-- Exclusions and routes. -/
structure Engine where
  /-- The rule sets that exclude a submission.  The first one that passes decides. -/
  exclusions : List RuleSet
  /-- The rule sets that route a submission.  The last one that passes decides. -/
  routes : List RuleSet
  /-- The payload of a submission that no route takes. -/
  defaultRoute : Option Document

namespace Engine

/-- The index of the first rule set without a payload. -/
def unrouted? (sets : List RuleSet) : Option Nat := sets.findIdx? (·.routing.isNone)

/-- The engine of a configuration.  Faults of exclusions come before faults of routes, and those
before a route without a payload. -/
def ofEntry (e : EngineEntry) : Except RuleFault Engine := do
  let exclusions ← RuleSetEntry.toRuleSets e.exclusions
  let routes ← RuleSetEntry.toRuleSets e.routes
  match unrouted? routes with
  | some set => .error (.missingRouting set)
  | none => .ok ⟨exclusions, routes, e.defaultRoute⟩

/-- Whether a record is excluded. -/
def screen (e : Engine) (record : Document) : Verdict := RuleSet.firstMatch record e.exclusions

/-- The payload of a record. -/
def route (e : Engine) (record : Document) : Option Document :=
  RuleSet.lastMatch record e.routes e.defaultRoute

/-- The topic a payload names. -/
def topicOf? : Document → Option String
  | .text topic => some topic
  | d => do (← d.field? "topic").asText?

/-- The topic of a record. -/
def routeTopic (e : Engine) (record : Document) : Option String :=
  ((e.route record).bind topicOf?).or (e.defaultRoute.bind topicOf?)

end Engine

end SurveyDispatch
