import SurveyDispatch.Location.Settings
import SurveyDispatch.Proofs.Document.KnownFields
import SurveyDispatch.Rule.Engine
import SurveyDispatch.Submission.Settings

/-!
# Configurations there and back

Settings are read back from what they are written as, whatever they are.  An engine is read back if
and only if no payload in it is null (`EngineEntry.ofDocument?_toDocument_iff`).  Every engine that
is read from a document is of this kind (`EngineEntry.readable_of_ofDocument?`), so writing and
reading again changes nothing (`configurations_reread`).
-/

namespace SurveyDispatch

open Document

/-! ## Settings -/

/-- Settings of submissions read back under both conventions. -/
theorem SubmissionSettings.ofDocument?_toDocument (c : Conventions) (s : SubmissionSettings) :
    ofDocument? c s.toDocument = some s := by
  rw [ofDocument?, toDocument, fieldValues?_record rfl (by decide)]
  simp [orElse, asText?, asBool?, asList?_ofTexts]

/-- Settings of addresses read back under both conventions. -/
theorem LocationSettings.ofDocument?_toDocument (c : Conventions) (s : LocationSettings) :
    ofDocument? c s.toDocument = some s := by
  rw [ofDocument?, toDocument, fieldValues?_record rfl (by decide)]
  simp [orElse, asText?, asList?_ofTexts]

/-! ## Rules -/

variable {c : Conventions}

theorem RuleEntry.ofDocument?_toDocument (e : RuleEntry) : ofDocument? c e.toDocument = some e := by
  rw [ofDocument?, toDocument, fieldValues?_record rfl (by decide)]
  simp [required, orElse, asText?, asBool?, asList?_some]

theorem AlertEntry.ofDocument?_toDocument (e : AlertEntry) :
    ofDocument? c e.toDocument = some e := by
  rw [ofDocument?, toDocument, fieldValues?_record rfl (by decide)]
  simp [orElse, asText?, asDictionary?_ofDictionary]

/-- No payload is null. -/
structure EngineEntry.Readable (e : EngineEntry) : Prop where
  exclusions : ∀ s ∈ e.exclusions, IsPresent s.routing
  routes : ∀ s ∈ e.routes, IsPresent s.routing
  defaultRoute : IsPresent e.defaultRoute

section

variable (nulls : c.nullIsAbsent = true)

include nulls

/-- A rule set reads back if its routing data is not null. -/
theorem RuleSetEntry.ofDocument?_toDocument {e : RuleSetEntry} (present : IsPresent e.routing) :
    ofDocument? c e.toDocument = some e := by
  rw [ofDocument?, toDocument, fieldValues?_record rfl (by decide)]
  have rules : asList? (RuleEntry.ofDocument? c) (list (e.rules.map RuleEntry.toDocument)) =
      some e.rules :=
    asList?_map fun r _ => r.ofDocument?_toDocument
  have alert : optional c (AlertEntry.ofDocument? c)
      (some (ofOption AlertEntry.toDocument e.alert)) = some e.alert :=
    optional_ofOption nulls (fun a _ => a.ofDocument?_toDocument) fun _ _ => rfl
  have routing := (optional_payload nulls).mpr present
  simp [orElse, rules, alert, routing]

/-- A rule set that was read has no null as its routing data. -/
theorem RuleSetEntry.isPresent_of_ofDocument? {d : Document} {e : RuleSetEntry}
    (h : ofDocument? c d = some e) : IsPresent e.routing := by
  obtain ⟨values, -, h⟩ := Option.bind_eq_some_iff.mp h
  split at h
  · obtain ⟨rules, -, h⟩ := Option.bind_eq_some_iff.mp h
    obtain ⟨alert, -, h⟩ := Option.bind_eq_some_iff.mp h
    obtain ⟨routing, read, h⟩ := Option.bind_eq_some_iff.mp h
    cases h
    exact isPresent_of_optional nulls read
  · cases h

/-- An engine is read back if no payload in it is null. -/
theorem EngineEntry.ofDocument?_toDocument {e : EngineEntry} (h : e.Readable) :
    ofDocument? c e.toDocument = some e := by
  rw [ofDocument?, toDocument, fieldValues?_record rfl (by decide)]
  have sets {es : List RuleSetEntry} (present : ∀ s ∈ es, IsPresent s.routing) :
      asList? (RuleSetEntry.ofDocument? c) (list (es.map RuleSetEntry.toDocument)) = some es :=
    asList?_map fun s mem => s.ofDocument?_toDocument nulls (present s mem)
  simp [orElse, sets h.exclusions, sets h.routes, (optional_payload nulls).mpr h.defaultRoute]

/-- An engine that is read has no payload that is null. -/
theorem EngineEntry.readable_of_ofDocument? {d : Document} {e : EngineEntry}
    (h : ofDocument? c d = some e) : e.Readable := by
  have sets {v : Option Document} {es : List RuleSetEntry}
      (read : orElse [] (asList? (RuleSetEntry.ofDocument? c)) v = some es) :
      ∀ s ∈ es, IsPresent s.routing := by
    refine of_orElse (P := fun es => ∀ s ∈ es, IsPresent s.routing) nofun (fun _ _ items => ?_) read
    exact forall_of_asList? (fun _ _ => RuleSetEntry.isPresent_of_ofDocument? nulls) items
  obtain ⟨values, -, h⟩ := Option.bind_eq_some_iff.mp h
  split at h
  · obtain ⟨exclusions, readExclusions, h⟩ := Option.bind_eq_some_iff.mp h
    obtain ⟨routes, readRoutes, h⟩ := Option.bind_eq_some_iff.mp h
    obtain ⟨defaultRoute, readDefault, h⟩ := Option.bind_eq_some_iff.mp h
    cases h
    exact ⟨sets readExclusions, sets readRoutes, isPresent_of_optional nulls readDefault⟩
  · cases h

/-- The engines that are read back are the engines that are read at all. -/
theorem EngineEntry.ofDocument?_toDocument_iff {e : EngineEntry} :
    ofDocument? c e.toDocument = some e ↔ e.Readable :=
  ⟨EngineEntry.readable_of_ofDocument? nulls, EngineEntry.ofDocument?_toDocument nulls⟩

end

-- A payload that is null is lost.
example : EngineEntry.ofDocument? .json (EngineEntry.mk [] [] (some null)).toDocument =
    some .none := rfl

/-! ## Reading again -/

/-- What is read from a document is read again from what it is written as. -/
structure Rereads {α : Type} (read : Document → Option α) (write : α → Document) (d : Document) :
    Prop where
  /-- What is read is read back. -/
  same : ∀ a, read d = some a → read (write a) = some a
  /-- Reading, writing and reading is the same as reading. -/
  again : ((read d).bind fun a => read (write a)) = read d

/-- Where whatever was read reads back as the same, so does it through its writing. -/
theorem Rereads.of_same {α : Type} {read : Document → Option α} {write : α → Document}
    {d : Document} (same : ∀ a, read d = some a → read (write a) = some a) :
    Rereads read write d where
  same := same
  again := by
    cases h : read d with
    | none => rfl
    | some a => exact same a h

/-- Whatever a JSON document says about engines, submissions and locations is the same after it has
been written and read again.  An engine that is built from it is the same, as is the fault. -/
theorem configurations_reread (d : Document) :
    Rereads (EngineEntry.ofDocument? .json) EngineEntry.toDocument d ∧
      Rereads (SubmissionSettings.ofDocument? .json) SubmissionSettings.toDocument d ∧
      Rereads (LocationSettings.ofDocument? .json) LocationSettings.toDocument d ∧
      ((EngineEntry.ofDocument? .json d).bind fun e =>
          (EngineEntry.ofDocument? .json e.toDocument).map Engine.ofEntry) =
        (EngineEntry.ofDocument? .json d).map Engine.ofEntry := by
  have engines : Rereads (EngineEntry.ofDocument? .json) EngineEntry.toDocument d :=
    .of_same fun _ read =>
      EngineEntry.ofDocument?_toDocument rfl (EngineEntry.readable_of_ofDocument? rfl read)
  refine ⟨engines, .of_same fun s _ => s.ofDocument?_toDocument .json,
    .of_same fun s _ => s.ofDocument?_toDocument .json, ?_⟩
  exact Option.map_bind.symm.trans (congrArg (Option.map Engine.ofEntry) engines.again)

/-- An engine in lists instead of records, with nulls for absent values, a null among literals,
missing values at the ends of the lists, and the second name of a payload. -/
def Document.terse : Document :=
  list [list [list [list [list [text "Entry/Status", text "equals", list [null]]], null, null]],
    list [record [("routing", record [("topic", text "east")]), ("alert", list [text "{id}"])]]]

/-- The engine of `Document.terse`. -/
def EngineEntry.terse : EngineEntry where
  exclusions := [⟨[⟨"Entry/Status", "equals", [null], false⟩], .none, .none⟩]
  routes := [⟨[], some ⟨"{id}", .empty⟩, some (record [("topic", text "east")])⟩]
  defaultRoute := .none

theorem configurations_reread_terse :
    EngineEntry.ofDocument? .json .terse = some .terse ∧
      EngineEntry.ofDocument? .json EngineEntry.terse.toDocument = some .terse :=
  ⟨rfl, (configurations_reread .terse).1.same .terse rfl⟩

end SurveyDispatch
