import Mathlib.Data.List.Forall2
import SurveyDispatch.Proofs.Rule.Templates
import SurveyDispatch.Rule.Configuration

/-!
# What the entries of a rule configuration denote

Rules, alerts and rule sets of a configuration are described in three ways, without the functions
that build them.  `WellFormed` says that one is good, `Denotes` what it stands for, and `Faulty`
which fault is reported at its place.  A function that builds one is known by two equivalences: its
result is what the entry denotes, and its error is the fault of the entry.

A list is built item by item, and the first error ends it.  So a list denotes the list of what its
items denote, and its fault is that of the first item which is not well formed (`FirstFault`).  This
one step takes rules to rule sets and rule sets to configurations.
-/

namespace SurveyDispatch

/-! ## Items in a row -/

/-- The fault of the first item that is not good. -/
def FirstFault {α ε : Type} (good : α → Prop) (faulty : Nat → α → ε → Prop) (items : List α)
    (fault : ε) : Prop :=
  ∃ front x rest, items = front ++ x :: rest ∧ (∀ y ∈ front, good y) ∧ faulty front.length x fault

section Items

variable {α β ε : Type} {f : Nat → α → Except ε β} {index : Nat} {x : α} {items : List α}

theorem bind_eq_ok_iff {γ : Type} {first : Except ε α} {next : α → Except ε γ} {c : γ} :
    (first >>= next) = .ok c ↔ ∃ a, first = .ok a ∧ next a = .ok c := by
  cases first with
  | error e => simp [bind, Except.bind]
  | ok a => simp [bind, Except.bind]

theorem bind_eq_error_iff {γ : Type} {first : Except ε α} {next : α → Except ε γ} {e : ε} :
    (first >>= next) = .error e ↔ first = .error e ∨ ∃ a, first = .ok a ∧ next a = .error e := by
  cases first with
  | error other => simp [bind, Except.bind]
  | ok a => simp [bind, Except.bind]

theorem mapIndexed_cons_eq_ok_iff {bs : List β} :
    mapIndexed f index (x :: items) = .ok bs ↔
      ∃ b rest, f index x = .ok b ∧ mapIndexed f (index + 1) items = .ok rest ∧ b :: rest = bs := by
  simp [mapIndexed, bind_eq_ok_iff, pure, Except.pure]

theorem mapIndexed_cons_eq_error_iff {e : ε} :
    mapIndexed f index (x :: items) = .error e ↔
      f index x = .error e ∨
        (∃ b, f index x = .ok b) ∧ mapIndexed f (index + 1) items = .error e := by
  simp [mapIndexed, bind_eq_error_iff, pure, Except.pure]

/-- A list denotes what its items denote, one by one. -/
theorem mapIndexed_eq_ok_iff {denotes : α → β → Prop}
    (ok : ∀ index x b, f index x = .ok b ↔ denotes x b) {bs : List β} :
    mapIndexed f index items = .ok bs ↔ List.Forall₂ denotes items bs := by
  induction items generalizing index bs with
  | nil => simp [mapIndexed, eq_comm]
  | cons x items ih =>
    rw [mapIndexed_cons_eq_ok_iff, List.forall₂_cons_left_iff]
    simp only [ok, ih, eq_comm]

/-- The first item that is not good ends the list. -/
theorem mapIndexed_eq_error_iff {good : α → Prop}
    (ok : ∀ index x, (∃ b, f index x = .ok b) ↔ good x) {e : ε} :
    mapIndexed f index items = .error e ↔
      FirstFault good (fun i x e => f (index + i) x = .error e) items e := by
  induction items generalizing index with
  | nil => simp [mapIndexed, FirstFault]
  | cons x items ih =>
    rw [mapIndexed_cons_eq_error_iff, ok, ih]
    constructor
    · rintro (fault | ⟨good, front, y, rest, rfl, before, fault⟩)
      · exact ⟨[], x, items, rfl, by simp, fault⟩
      · refine ⟨x :: front, y, rest, rfl, List.forall_mem_cons.mpr ⟨good, before⟩, ?_⟩
        show f (index + (front.length + 1)) y = .error e
        rw [Nat.add_comm front.length, ← Nat.add_assoc]
        exact fault
    · rintro ⟨front, y, rest, split, before, fault⟩
      cases front with
      | nil =>
        cases split
        exact .inl fault
      | cons z front =>
        cases split
        obtain ⟨good, before⟩ := List.forall_mem_cons.mp before
        refine .inr ⟨good, front, y, rest, rfl, before, ?_⟩
        show f (index + 1 + front.length) y = .error e
        rw [Nat.add_assoc, Nat.add_comm 1]
        exact fault

/-- A list denotes something if each of its items does. -/
theorem exists_forall₂_iff {denotes : α → β → Prop} :
    (∃ bs, List.Forall₂ denotes items bs) ↔ ∀ x ∈ items, ∃ b, denotes x b := by
  induction items with
  | nil => simp
  | cons x items ih =>
    rw [List.forall_mem_cons, ← ih]
    constructor
    · rintro ⟨_, related⟩
      obtain ⟨b, bs, head, tail, -⟩ := List.forall₂_cons_left_iff.mp related
      exact ⟨⟨b, head⟩, ⟨bs, tail⟩⟩
    · rintro ⟨⟨b, head⟩, ⟨bs, tail⟩⟩
      exact ⟨b :: bs, .cons head tail⟩

/-- The first item with a property, and how many items come before it. -/
theorem findIdx?_eq_some_iff {p : α → Bool} {i : Nat} :
    items.findIdx? p = some i ↔
      ∃ front x rest, items = front ++ x :: rest ∧ (∀ y ∈ front, p y = false) ∧ p x = true ∧
        front.length = i := by
  constructor
  · intro found
    obtain ⟨inside, holds, before⟩ := List.findIdx?_eq_some_iff_getElem.mp found
    refine ⟨items.take i, items[i], items.drop (i + 1), ?_, ?_, holds, ?_⟩
    · rw [List.getElem_cons_drop, List.take_append_drop]
    · intro y mem
      obtain ⟨j, small, rfl⟩ := List.mem_iff_getElem.mp mem
      rw [List.getElem_take, ← Bool.not_eq_true]
      exact before j (by simp at small; omega)
    · rw [List.length_take]
      omega
  · rintro ⟨front, x, rest, rfl, before, holds, rfl⟩
    rw [List.findIdx?_append, List.findIdx?_eq_none_iff.mpr before, List.findIdx?_cons, holds]
    simp

end Items

/-! ## Predicates -/

namespace Comparison

/-- Whether a text is the name of a comparison, in letters of either case. -/
def Named (c : Comparison) (s : String) : Prop :=
  s.toList.map Char.toUpper = c.name.toList.map Char.toUpper

theorem toUpper_name (c : Comparison) : c.name.toList.map Char.toUpper = c.name.toList := by
  cases c <;> rfl

/-- A comparison is found by its name in letters of either case. -/
theorem ofName?_eq_some_iff {c : Comparison} {s : String} : ofName? s = some c ↔ c.Named s := by
  rw [Named, toUpper_name, ofName?]
  constructor
  · intro found
    simpa using List.find?_some found
  · intro same
    rw [same]
    cases c <;> rfl

theorem ofName?_eq_none_iff {s : String} : ofName? s = none ↔ ∀ c : Comparison, ¬c.Named s := by
  rw [Option.eq_none_iff_forall_ne_some]
  simp only [ne_eq, ofName?_eq_some_iff]

end Comparison

/-- The literals a predicate carries. -/
def Predicate.literals : Predicate → List Document
  | empty => []
  | equals literal | bigger literal | smaller literal => [literal]

theorem Predicate.length_literals (p : Predicate) : p.literals.length = p.comparison.arity := by
  cases p <;> rfl

namespace Comparison

variable {c : Comparison} {arguments : List Document}

theorem bind?_eq_some_iff {p : Predicate} :
    c.bind? arguments = some p ↔ p.comparison = c ∧ p.literals = arguments := by
  constructor
  · intro bound
    unfold bind? at bound
    split at bound <;> cases bound <;> exact ⟨rfl, rfl⟩
  · rintro ⟨rfl, rfl⟩
    cases p <;> rfl

theorem bind?_eq_none_iff : c.bind? arguments = none ↔ arguments.length ≠ c.arity := by
  constructor
  · intro unbound length
    cases c with
    | empty =>
      cases List.length_eq_zero_iff.mp length
      cases unbound
    | _ =>
      obtain ⟨literal, rfl⟩ := List.length_eq_one_iff.mp length
      cases unbound
  · intro wrong
    rw [Option.eq_none_iff_forall_ne_some]
    intro p bound
    obtain ⟨rfl, rfl⟩ := bind?_eq_some_iff.mp bound
    exact wrong p.length_literals

end Comparison

/-! ## Rules -/

namespace RuleEntry

variable {set rule : Nat} {e : RuleEntry}

/-- The type names a comparison and there are as many literals as it takes. -/
def WellFormed (e : RuleEntry) : Prop :=
  ∃ c : Comparison, c.Named e.type ∧ e.arguments.length = c.arity

/-- The rule that an entry stands for. -/
structure Denotes (e : RuleEntry) (r : Rule) : Prop where
  /-- The same path. -/
  target : r.target = e.target
  /-- The comparison that the type names. -/
  named : r.predicate.comparison.Named e.type
  /-- The same literals. -/
  literals : r.predicate.literals = e.arguments
  /-- Inverted if the entry says so. -/
  inverted : r.inverted = e.inverted

/-- The fault of an entry at its place.  An unknown type comes before the number of literals. -/
inductive Faulty (set rule : Nat) (e : RuleEntry) : RuleFault → Prop where
  /-- The type names no comparison. -/
  | unknownPredicate (unknown : ∀ c : Comparison, ¬c.Named e.type) :
      Faulty set rule e (.unknownPredicate set rule e.type)
  /-- The comparison takes another number of literals. -/
  | argumentCount {c : Comparison} (named : c.Named e.type)
      (wrong : e.arguments.length ≠ c.arity) :
      Faulty set rule e (.argumentCount set rule c e.arguments.length)

/-- A rule is accepted exactly as what its entry denotes. -/
theorem toRule_eq_ok_iff {r : Rule} : e.toRule set rule = .ok r ↔ e.Denotes r := by
  unfold toRule
  constructor
  · intro built
    split at built
    next => cases built
    next c named =>
      split at built
      next => cases built
      next p bound =>
        cases built
        obtain ⟨rfl, literals⟩ := Comparison.bind?_eq_some_iff.mp bound
        exact ⟨rfl, Comparison.ofName?_eq_some_iff.mp named, literals, rfl⟩
  · rintro ⟨target, named, literals, inverted⟩
    have bound := Comparison.bind?_eq_some_iff.mpr ⟨rfl, literals⟩
    rw [Comparison.ofName?_eq_some_iff.mpr named]
    simp only [bound, ← target, ← inverted]

/-- A rule is refused exactly with the fault of its entry. -/
theorem toRule_eq_error_iff {fault : RuleFault} :
    e.toRule set rule = .error fault ↔ e.Faulty set rule fault := by
  unfold toRule
  constructor
  · intro refused
    split at refused
    next unknown =>
      cases refused
      exact .unknownPredicate (Comparison.ofName?_eq_none_iff.mp unknown)
    next c named =>
      split at refused
      next wrong =>
        cases refused
        exact .argumentCount (Comparison.ofName?_eq_some_iff.mp named)
          (Comparison.bind?_eq_none_iff.mp wrong)
      next => cases refused
  · rintro (unknown | ⟨named, wrong⟩)
    · rw [Comparison.ofName?_eq_none_iff.mpr unknown]
    · rw [Comparison.ofName?_eq_some_iff.mpr named]
      simp only [Comparison.bind?_eq_none_iff.mpr wrong]

/-- A rule is well formed if it denotes something. -/
theorem exists_denotes_iff : (∃ r, e.Denotes r) ↔ e.WellFormed := by
  constructor
  · rintro ⟨r, denotes⟩
    refine ⟨r.predicate.comparison, denotes.named, ?_⟩
    rw [← denotes.literals, r.predicate.length_literals]
  · rintro ⟨c, named, length⟩
    cases bound : c.bind? e.arguments with
    | none => exact absurd length (Comparison.bind?_eq_none_iff.mp bound)
    | some p =>
      obtain ⟨rfl, literals⟩ := Comparison.bind?_eq_some_iff.mp bound
      exact ⟨⟨e.target, p, e.inverted⟩, rfl, named, literals, rfl⟩

end RuleEntry

/-! ## Alerts -/

namespace AlertEntry

variable {set : Nat} {e : AlertEntry}

/-- The template has pieces and all its placeholders name variables. -/
def WellFormed (e : AlertEntry) : Prop :=
  ∃ pieces, Template.read e.message = .ok pieces ∧ Alert.Declared e.paths pieces

/-- The alert that an entry stands for. -/
structure Denotes (e : AlertEntry) (a : Alert) : Prop where
  /-- The same template. -/
  template : a.template = e.message
  /-- The same variables. -/
  paths : a.paths = e.paths
  /-- The pieces of the template. -/
  pieces : Template.read e.message = .ok a.pieces
  /-- All placeholders name variables. -/
  declared : Alert.Declared e.paths a.pieces

/-- The fault of an alert at its place. -/
inductive Faulty (set : Nat) (e : AlertEntry) : RuleFault → Prop where
  /-- The template has no pieces. -/
  | malformedAlert {fault : TemplateFault} (malformed : Template.read e.message = .error fault) :
      Faulty set e (.malformedAlert set fault)
  /-- The first placeholder that names no variable. -/
  | undeclaredVariable {front rest : List Piece} {name : String}
      (pieces : Template.read e.message = .ok (front ++ .variable name.toList :: rest))
      (declared : Alert.Declared e.paths front) (unknown : e.paths.contains name = false) :
      Faulty set e (.undeclaredVariable set name)

theorem toAlert_eq_ok_iff {a : Alert} : e.toAlert set = .ok a ↔ e.Denotes a := by
  have built : e.toAlert set = .ok a ↔ Alert.ofTemplate e.message e.paths = .ok a := by
    unfold toAlert
    cases Alert.ofTemplate e.message e.paths with
    | error fault => simp [Except.mapError]
    | ok b => simp [Except.mapError]
  rw [built, Alert.ofTemplate_eq_ok_iff]
  constructor
  · rintro ⟨pieces, read, declared, rfl⟩
    exact ⟨rfl, rfl, read, declared⟩
  · rintro ⟨template, paths, read, declared⟩
    exact ⟨a.pieces, read, declared, by rw [← template, ← paths]⟩

/-- An alert is refused exactly with the fault of its entry. -/
theorem toAlert_eq_error_iff {fault : RuleFault} :
    e.toAlert set = .error fault ↔ e.Faulty set fault := by
  have refused : e.toAlert set = .error fault ↔
      ∃ f : AlertFault, Alert.ofTemplate e.message e.paths = .error f ∧ f.at set = fault := by
    unfold toAlert
    cases Alert.ofTemplate e.message e.paths with
    | error f => simp [Except.mapError]
    | ok b => simp [Except.mapError]
  rw [refused]
  constructor
  · rintro ⟨malformed | name, template, rfl⟩
    · exact .malformedAlert (Alert.ofTemplate_eq_malformed_iff.mp template)
    · obtain ⟨pieces, read, missing⟩ := Alert.ofTemplate_eq_undeclared_iff.mp template
      obtain ⟨front, rest, rfl, declared, unknown⟩ := Alert.undeclared?_eq_some_iff.mp missing
      exact .undeclaredVariable read declared unknown
  · rintro (malformed | ⟨read, declared, unknown⟩)
    · exact ⟨_, Alert.ofTemplate_eq_malformed_iff.mpr malformed, rfl⟩
    · refine ⟨_, Alert.ofTemplate_eq_undeclared_iff.mpr ⟨_, read, ?_⟩, rfl⟩
      exact Alert.undeclared?_eq_some_iff.mpr ⟨_, _, rfl, declared, unknown⟩

/-- An alert is well formed if it denotes something. -/
theorem exists_denotes_iff : (∃ a, e.Denotes a) ↔ e.WellFormed := by
  constructor
  · rintro ⟨a, -, -, read, declared⟩
    exact ⟨a.pieces, read, declared⟩
  · rintro ⟨pieces, read, declared⟩
    exact ⟨⟨e.message, pieces, e.paths⟩, rfl, rfl, read, declared⟩

end AlertEntry

/-! ## Rule sets -/

namespace RuleSetEntry

variable {set : Nat} {e : RuleSetEntry} {es : List RuleSetEntry}

/-- All its rules are well formed, and its alert if it has one. -/
structure WellFormed (e : RuleSetEntry) : Prop where
  /-- The rules. -/
  rules : ∀ r ∈ e.rules, r.WellFormed
  /-- The alert. -/
  alert : ∀ a, e.alert = some a → a.WellFormed

/-- The rule set that an entry stands for. -/
structure Denotes (e : RuleSetEntry) (s : RuleSet) : Prop where
  /-- The rules in their order. -/
  rules : List.Forall₂ RuleEntry.Denotes e.rules s.rules
  /-- The alert, if there is one. -/
  alert : Option.Rel AlertEntry.Denotes e.alert s.alert
  /-- The same payload. -/
  routing : s.routing = e.routing

/-- The fault of a rule set at its place.  The alert comes after all rules. -/
inductive Faulty (set : Nat) (e : RuleSetEntry) : RuleFault → Prop where
  /-- The first rule that is not well formed. -/
  | rule {fault : RuleFault}
      (first : FirstFault RuleEntry.WellFormed (RuleEntry.Faulty set) e.rules fault) :
      Faulty set e fault
  /-- The alert behind good rules. -/
  | alert {a : AlertEntry} {fault : RuleFault} (rules : ∀ r ∈ e.rules, r.WellFormed)
      (alert : e.alert = some a) (faulty : a.Faulty set fault) : Faulty set e fault

theorem rules_eq_ok_iff {entries : List RuleEntry} {rules : List Rule} :
    mapIndexed (RuleEntry.toRule set) 0 entries = .ok rules ↔
      List.Forall₂ RuleEntry.Denotes entries rules := by
  have ok : ∀ rule e r, RuleEntry.toRule set rule e = .ok r ↔ e.Denotes r := by
    intro rule e r
    exact RuleEntry.toRule_eq_ok_iff
  exact mapIndexed_eq_ok_iff ok

theorem exists_rules_iff {entries : List RuleEntry} :
    (∃ rules, List.Forall₂ RuleEntry.Denotes entries rules) ↔ ∀ r ∈ entries, r.WellFormed := by
  rw [exists_forall₂_iff]
  simp only [RuleEntry.exists_denotes_iff]

/-- Rules are refused with the fault of the first faulty one. -/
theorem rules_eq_error_iff {entries : List RuleEntry} {fault : RuleFault} :
    mapIndexed (RuleEntry.toRule set) 0 entries = .error fault ↔
      FirstFault RuleEntry.WellFormed (RuleEntry.Faulty set) entries fault := by
  have ok : ∀ rule (e : RuleEntry), (∃ r, e.toRule set rule = .ok r) ↔ e.WellFormed := by
    intro rule e
    simp only [RuleEntry.toRule_eq_ok_iff, RuleEntry.exists_denotes_iff]
  rw [mapIndexed_eq_error_iff ok]
  simp only [Nat.zero_add, RuleEntry.toRule_eq_error_iff]

/-- The alert of a rule set at its place, if it has one. -/
def alertAt (set : Nat) : Option AlertEntry → Except RuleFault (Option Alert)
  | some a => some <$> a.toAlert set
  | none => .ok none

theorem toRuleSet_eq_bind : e.toRuleSet set =
    mapIndexed (RuleEntry.toRule set) 0 e.rules >>= fun rules =>
      alertAt set e.alert >>= fun alert => .ok ⟨rules, alert, e.routing⟩ := by
  obtain ⟨rules, alert, routing⟩ := e
  cases alert with
  | none => rfl
  | some a => rfl

theorem alertAt_eq_ok_iff {entry : Option AlertEntry} {alert : Option Alert} :
    alertAt set entry = .ok alert ↔ Option.Rel AlertEntry.Denotes entry alert := by
  cases entry with
  | none => cases alert <;> simp [alertAt]
  | some a =>
    have built : alertAt set (some a) = .ok alert ↔
        ∃ b, a.toAlert set = .ok b ∧ some b = alert := by
      rw [alertAt]
      cases a.toAlert set with
      | error fault => simp [Functor.map, Except.map]
      | ok b => simp [Functor.map, Except.map]
    rw [built]
    cases alert with
    | none => simp
    | some b => simp [AlertEntry.toAlert_eq_ok_iff]

theorem alertAt_eq_error_iff {entry : Option AlertEntry} {fault : RuleFault} :
    alertAt set entry = .error fault ↔ ∃ a, entry = some a ∧ a.Faulty set fault := by
  cases entry with
  | none => simp [alertAt]
  | some a =>
    simp only [← AlertEntry.toAlert_eq_error_iff, alertAt, Option.some.injEq, exists_eq_left']
    cases a.toAlert set with
    | error fault => simp [Functor.map, Except.map]
    | ok b => simp [Functor.map, Except.map]

theorem toRuleSet_eq_ok_iff {s : RuleSet} : e.toRuleSet set = .ok s ↔ e.Denotes s := by
  rw [toRuleSet_eq_bind, bind_eq_ok_iff]
  simp only [bind_eq_ok_iff, rules_eq_ok_iff, alertAt_eq_ok_iff]
  constructor
  · rintro ⟨rules, related, alert, related', built⟩
    cases built
    exact ⟨related, related', rfl⟩
  · rintro ⟨related, related', routing⟩
    exact ⟨s.rules, related, s.alert, related', by rw [← routing]⟩

/-- A rule set is refused exactly with the fault of its entry. -/
theorem toRuleSet_eq_error_iff {fault : RuleFault} :
    e.toRuleSet set = .error fault ↔ e.Faulty set fault := by
  rw [toRuleSet_eq_bind, bind_eq_error_iff]
  simp only [bind_eq_error_iff, rules_eq_ok_iff, rules_eq_error_iff, alertAt_eq_error_iff]
  constructor
  · rintro (first | ⟨rules, related, ⟨a, alert, faulty⟩ | ⟨alert, -, built⟩⟩)
    · exact .rule first
    · exact .alert (exists_rules_iff.mp ⟨rules, related⟩) alert faulty
    · cases built
  · rintro (first | ⟨good, alert, faulty⟩)
    · exact .inl first
    · obtain ⟨rules, related⟩ := exists_rules_iff.mpr good
      exact .inr ⟨rules, related, .inl ⟨_, alert, faulty⟩⟩

/-- A rule set is well formed if it denotes something. -/
theorem exists_denotes_iff : (∃ s, e.Denotes s) ↔ e.WellFormed := by
  constructor
  · rintro ⟨⟨_, alert, _⟩, rules, related, -⟩
    refine ⟨exists_rules_iff.mp ⟨_, rules⟩, fun a found => ?_⟩
    rw [found] at related
    obtain ⟨denotes⟩ := related
    exact AlertEntry.exists_denotes_iff.mp ⟨_, denotes⟩
  · rintro ⟨good, alert⟩
    obtain ⟨rules, related⟩ := exists_rules_iff.mpr good
    cases found : e.alert with
    | none => exact ⟨⟨rules, none, e.routing⟩, related, found ▸ .none, rfl⟩
    | some a =>
      obtain ⟨b, denotes⟩ := AlertEntry.exists_denotes_iff.mpr (alert a found)
      exact ⟨⟨rules, some b, e.routing⟩, related, found ▸ .some denotes, rfl⟩

theorem toRuleSets_eq_ok_iff {sets : List RuleSet} :
    toRuleSets es = .ok sets ↔ List.Forall₂ Denotes es sets := by
  have ok : ∀ set e s, toRuleSet set e = .ok s ↔ e.Denotes s := by
    intro set e s
    exact toRuleSet_eq_ok_iff
  exact mapIndexed_eq_ok_iff ok

theorem exists_sets_iff :
    (∃ sets, List.Forall₂ Denotes es sets) ↔ ∀ e ∈ es, e.WellFormed := by
  rw [exists_forall₂_iff]
  simp only [exists_denotes_iff]

/-- Rule sets are refused with the fault of the first faulty one. -/
theorem toRuleSets_eq_error_iff {fault : RuleFault} :
    toRuleSets es = .error fault ↔ FirstFault WellFormed Faulty es fault := by
  have ok : ∀ set (e : RuleSetEntry), (∃ s, e.toRuleSet set = .ok s) ↔ e.WellFormed := by
    intro set e
    simp only [toRuleSet_eq_ok_iff, exists_denotes_iff]
  rw [toRuleSets, mapIndexed_eq_error_iff ok]
  simp only [Nat.zero_add, toRuleSet_eq_error_iff]

end RuleSetEntry

end SurveyDispatch
