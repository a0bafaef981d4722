import SurveyDispatch.Proofs.Rule.Denotations
import SurveyDispatch.Proofs.Rule.Policies
import SurveyDispatch.Rule.Engine

/-!
# Which rule configurations are accepted

An engine has two lists of rule sets.  Both are described by what their entries denote, and in
addition every route has a payload.  The faults of the two lists and of missing payloads are
reported in this order.

Since every route of an accepted engine has a payload, the last one that passes gives its own, and
the default route is left for records that no route takes.
-/

namespace SurveyDispatch

namespace EngineEntry

variable {e : EngineEntry}

/-- Its rule sets are well formed and every route has a payload. -/
structure WellFormed (e : EngineEntry) : Prop where
  /-- The exclusions. -/
  exclusions : ∀ s ∈ e.exclusions, s.WellFormed
  /-- The routes. -/
  routes : ∀ s ∈ e.routes, s.WellFormed
  /-- The payloads. -/
  routed : ∀ s ∈ e.routes, s.routing.isSome

/-- The engine that an entry stands for. -/
structure Denotes (e : EngineEntry) (engine : Engine) : Prop where
  /-- The exclusions in their order. -/
  exclusions : List.Forall₂ RuleSetEntry.Denotes e.exclusions engine.exclusions
  /-- The routes in their order. -/
  routes : List.Forall₂ RuleSetEntry.Denotes e.routes engine.routes
  /-- Every route has a payload. -/
  routed : ∀ s ∈ e.routes, s.routing.isSome
  /-- The same default route. -/
  defaultRoute : engine.defaultRoute = e.defaultRoute

/-- The fault of an entry.  Faults of exclusions come before faults of routes, and those before a
route without a payload. -/
inductive Faulty (e : EngineEntry) : RuleFault → Prop where
  /-- The first exclusion that is not well formed. -/
  | exclusion {fault : RuleFault}
      (first : FirstFault RuleSetEntry.WellFormed RuleSetEntry.Faulty e.exclusions fault) :
      Faulty e fault
  /-- The first route that is not well formed. -/
  | route {fault : RuleFault} (exclusions : ∀ s ∈ e.exclusions, s.WellFormed)
      (first : FirstFault RuleSetEntry.WellFormed RuleSetEntry.Faulty e.routes fault) :
      Faulty e fault
  /-- The first route without a payload. -/
  | missingRouting {front rest : List RuleSetEntry} {s : RuleSetEntry}
      (exclusions : ∀ s ∈ e.exclusions, s.WellFormed) (routes : ∀ s ∈ e.routes, s.WellFormed)
      (split : e.routes = front ++ s :: rest) (before : ∀ r ∈ front, r.routing.isSome)
      (missing : s.routing.isNone) : Faulty e (.missingRouting front.length)

end EngineEntry

namespace Engine

variable {e : EngineEntry}

/-- The payloads of rule sets are those of their entries. -/
theorem unrouted?_eq {es : List RuleSetEntry} {sets : List RuleSet}
    (h : List.Forall₂ RuleSetEntry.Denotes es sets) :
    unrouted? sets = es.findIdx? (·.routing.isNone) := by
  induction h with
  | nil => rfl
  | cons denotes _ ih =>
    rw [unrouted?] at ih
    rw [unrouted?, List.findIdx?_cons, List.findIdx?_cons, denotes.routing, ih]

theorem ofEntry_eq_bind : ofEntry e =
    RuleSetEntry.toRuleSets e.exclusions >>= fun exclusions =>
      RuleSetEntry.toRuleSets e.routes >>= fun routes =>
        match unrouted? routes with
        | some set => .error (.missingRouting set)
        | none => .ok ⟨exclusions, routes, e.defaultRoute⟩ := rfl

/-- An engine is accepted exactly as what its entry denotes. -/
theorem ofEntry_eq_ok_iff {engine : Engine} : ofEntry e = .ok engine ↔ e.Denotes engine := by
  rw [ofEntry_eq_bind]
  simp only [bind_eq_ok_iff, RuleSetEntry.toRuleSets_eq_ok_iff]
  constructor
  · rintro ⟨exclusions, related, routes, related', built⟩
    rw [unrouted?_eq related'] at built
    cases unrouted : e.routes.findIdx? (·.routing.isNone) with
    | some set =>
      rw [unrouted] at built
      cases built
    | none =>
      rw [unrouted] at built
      cases built
      refine ⟨related, related', ?_, rfl⟩
      simpa using unrouted
  · rintro ⟨related, related', routed, defaultRoute⟩
    refine ⟨engine.exclusions, related, engine.routes, related', ?_⟩
    have unrouted : e.routes.findIdx? (·.routing.isNone) = none := by simpa using routed
    rw [unrouted?_eq related', unrouted, ← defaultRoute]

/-- An engine is refused exactly with the fault of its entry. -/
theorem ofEntry_eq_error_iff {fault : RuleFault} : ofEntry e = .error fault ↔ e.Faulty fault := by
  rw [ofEntry_eq_bind]
  simp only [bind_eq_error_iff, RuleSetEntry.toRuleSets_eq_ok_iff,
    RuleSetEntry.toRuleSets_eq_error_iff]
  constructor
  · rintro (first | ⟨exclusions, related, first | ⟨routes, related', refused⟩⟩)
    · exact .exclusion first
    · exact .route (RuleSetEntry.exists_sets_iff.mp ⟨exclusions, related⟩) first
    · rw [unrouted?_eq related'] at refused
      cases unrouted : e.routes.findIdx? (·.routing.isNone) with
      | none =>
        rw [unrouted] at refused
        cases refused
      | some set =>
        rw [unrouted] at refused
        cases refused
        obtain ⟨front, s, rest, split, before, missing, rfl⟩ := findIdx?_eq_some_iff.mp unrouted
        refine .missingRouting (RuleSetEntry.exists_sets_iff.mp ⟨exclusions, related⟩)
          (RuleSetEntry.exists_sets_iff.mp ⟨routes, related'⟩) split ?_ missing
        simpa using before
  · rintro (first | ⟨good, first⟩ | ⟨good, good', split, before, missing⟩)
    · exact .inl first
    · obtain ⟨exclusions, related⟩ := RuleSetEntry.exists_sets_iff.mpr good
      exact .inr ⟨exclusions, related, .inl first⟩
    · obtain ⟨exclusions, related⟩ := RuleSetEntry.exists_sets_iff.mpr good
      obtain ⟨routes, related'⟩ := RuleSetEntry.exists_sets_iff.mpr good'
      have unrouted : e.routes.findIdx? (·.routing.isNone) = some _ :=
        findIdx?_eq_some_iff.mpr ⟨_, _, _, split, by simpa using before, missing, rfl⟩
      refine .inr ⟨exclusions, related, .inr ⟨routes, related', ?_⟩⟩
      rw [unrouted?_eq related', unrouted]

/-- An entry is well formed if it denotes something. -/
theorem exists_denotes_iff : (∃ engine, e.Denotes engine) ↔ e.WellFormed := by
  constructor
  · rintro ⟨engine, exclusions, routes, routed, -⟩
    exact ⟨RuleSetEntry.exists_sets_iff.mp ⟨_, exclusions⟩,
      RuleSetEntry.exists_sets_iff.mp ⟨_, routes⟩, routed⟩
  · rintro ⟨good, good', routed⟩
    obtain ⟨exclusions, related⟩ := RuleSetEntry.exists_sets_iff.mpr good
    obtain ⟨routes, related'⟩ := RuleSetEntry.exists_sets_iff.mpr good'
    exact ⟨⟨exclusions, routes, e.defaultRoute⟩, related, related', routed, rfl⟩

/-- Every route of an engine that was accepted has a payload. -/
theorem routed_of_denotes {engine : Engine} (h : e.Denotes engine) :
    ∀ s ∈ engine.routes, s.routing.isSome := by
  have unrouted : unrouted? engine.routes = none := by
    rw [unrouted?_eq h.routes]
    simpa using h.routed
  simpa [unrouted?] using unrouted

/-- Which configurations are accepted, what they stand for and which fault is reported otherwise,
and the payload of a record under an engine that was accepted. -/
theorem configurations_accepted (es : List RuleSetEntry) (e : EngineEntry) :
    ((∃ sets, RuleSetEntry.toRuleSets es = .ok sets) ↔ ∀ s ∈ es, s.WellFormed) ∧
      (∀ sets, RuleSetEntry.toRuleSets es = .ok sets ↔
        List.Forall₂ RuleSetEntry.Denotes es sets) ∧
      (∀ fault, RuleSetEntry.toRuleSets es = .error fault ↔
        FirstFault RuleSetEntry.WellFormed RuleSetEntry.Faulty es fault) ∧
      ((∃ engine, ofEntry e = .ok engine) ↔ e.WellFormed) ∧
      (∀ engine, ofEntry e = .ok engine ↔ e.Denotes engine) ∧
      (∀ fault, ofEntry e = .error fault ↔ e.Faulty fault) ∧
      ∀ engine record, ofEntry e = .ok engine →
        (∀ front s rest, engine.routes = front ++ s :: rest → s.passes record = true →
          (∀ t ∈ rest, t.passes record = false) →
          ∃ payload, s.routing = some payload ∧ engine.route record = some payload) ∧
        ((∀ s ∈ engine.routes, s.passes record = false) →
          engine.route record = e.defaultRoute) := by
  refine ⟨?_, fun _ => RuleSetEntry.toRuleSets_eq_ok_iff,
    fun _ => RuleSetEntry.toRuleSets_eq_error_iff, ?_, fun _ => ofEntry_eq_ok_iff,
    fun _ => ofEntry_eq_error_iff, ?_⟩
  · simp only [RuleSetEntry.toRuleSets_eq_ok_iff, RuleSetEntry.exists_sets_iff]
  · simp only [ofEntry_eq_ok_iff, exists_denotes_iff]
  · intro engine record accepted
    have denotes := ofEntry_eq_ok_iff.mp accepted
    constructor
    · intro front s rest split passes after
      have mem : s ∈ engine.routes := split ▸ List.mem_append_right front List.mem_cons_self
      obtain ⟨payload, found⟩ := Option.isSome_iff_exists.mp (routed_of_denotes denotes s mem)
      refine ⟨payload, found, ?_⟩
      rw [route, split, RuleSet.lastMatch_of_passes passes after, found]
      rfl
    · intro fails
      rw [route, RuleSet.lastMatch_of_fails fails, denotes.defaultRoute]

/-- A route for every record. -/
def allRoute : RuleSet := ⟨[], none, some (.text "all")⟩

/-- A route for tests. -/
def testRoute : RuleSet :=
  ⟨[⟨"kind", .equals (.text "test"), false⟩], none, some (.text "tests")⟩

/-- The two routes as configured. -/
def twoRoutes : EngineEntry :=
  ⟨[], [⟨[], none, some (.text "all")⟩,
    ⟨[⟨"kind", "eQuaLs", [.text "test"], false⟩], none, some (.text "tests")⟩], none⟩

/-- The route for tests comes last and overrides the other one. -/
theorem configurations_accepted_override :
    ofEntry twoRoutes = .ok ⟨[], [allRoute, testRoute], none⟩ ∧
      route ⟨[], [allRoute, testRoute], none⟩ (.record [("kind", .text "test")]) =
        some (.text "tests") ∧
      route ⟨[], [allRoute, testRoute], none⟩ (.record []) = some (.text "all") := by
  have accepted : ofEntry twoRoutes = .ok ⟨[], [allRoute, testRoute], none⟩ := rfl
  obtain ⟨-, -, -, -, -, -, routed⟩ := configurations_accepted [] twoRoutes
  refine ⟨accepted, ?_, ?_⟩
  · obtain ⟨last, -⟩ := routed _ (.record [("kind", .text "test")]) accepted
    obtain ⟨payload, found, selected⟩ := last [allRoute] testRoute [] rfl (by decide) (by simp)
    cases found
    exact selected
  · obtain ⟨last, -⟩ := routed _ (.record []) accepted
    have after : ∀ t ∈ [testRoute], t.passes (.record []) = false := by
      intro t mem
      cases List.mem_singleton.mp mem
      decide
    obtain ⟨payload, found, selected⟩ := last [] allRoute [testRoute] rfl (by decide) after
    cases found
    exact selected

end Engine

end SurveyDispatch
