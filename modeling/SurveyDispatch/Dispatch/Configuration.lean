import SurveyDispatch.Location.Settings
import SurveyDispatch.Rule.Engine
import SurveyDispatch.Submission.Settings
import SurveyDispatch.Toml.File

/-!
# Configurations

A dispatch is configured by a TOML file.  Every part of it has a default, and a part of any other
name is an error.
-/

namespace SurveyDispatch

/-- What a dispatch is configured with. -/
structure Configuration where
  /-- Where submissions keep what. -/
  submissions : SubmissionSettings := .default
  /-- How submissions are located. -/
  locations : LocationSettings := .default
  /-- What the keys of submissions start with. -/
  entryPrefix : String := "entries/"
  /-- The topic of a submission that no route takes. -/
  defaultTopic : Option String := none
  /-- The rule sets that exclude a submission. -/
  exclusions : List RuleSetEntry := []
  /-- The rule sets that route a submission. -/
  routes : List RuleSetEntry := []

namespace Configuration

/-- The built-in configuration. -/
def default : Configuration := {}

open Document

/-- The names of the parts. -/
def names : List String :=
  ["form", "geo", "entry_prefix", "default_topic", "exclude_rules", "routes"]

/-- Whether a document has no parts but the known ones. -/
def hasKnownParts : Document → Bool
  | .record fields => fields.all fun f => names.contains f.1
  | _ => false

/-- Reads a configuration. -/
def ofDocument? (c : Conventions) (d : Document) : Option Configuration := do
  if !hasKnownParts d then failure
  match ← d.fieldValues? c (names.map fun n => [n]) with
  | [submissions, locations, entryPrefix, defaultTopic, exclusions, routes] =>
    return {
      submissions := ← orElse .default (SubmissionSettings.ofDocument? c) submissions
      locations := ← orElse .default (LocationSettings.ofDocument? c) locations
      entryPrefix := ← orElse default.entryPrefix asText? entryPrefix
      defaultTopic := ← optional c asText? defaultTopic
      exclusions := ← orElse [] (asList? (RuleSetEntry.ofDocument? c)) exclusions
      routes := ← orElse [] (asList? (RuleSetEntry.ofDocument? c)) routes }
  | _ => failure

/-- Reads the configuration in a file. -/
def ofFile? (file : String) : Option Configuration := do ofDocument? .toml (← Toml.read? file)

/-- The exclusions and routes.  The default topic stands in where no route passes. -/
def engineEntry (c : Configuration) : EngineEntry :=
  ⟨c.exclusions, c.routes, c.defaultTopic.map .text⟩

/-- The engine. -/
def engine (c : Configuration) : Except RuleFault Engine := Engine.ofEntry c.engineEntry

example : (ofFile? "").map (·.entryPrefix) = some "entries/" := by decide
example : (ofFile? "entry_prefix = \"forms/\"").map (·.entryPrefix) = some "forms/" := by
  decide +kernel
example : (ofFile? "prefixes = 1").isNone := by decide +kernel

end Configuration

end SurveyDispatch
