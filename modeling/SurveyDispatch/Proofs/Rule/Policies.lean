import SurveyDispatch.Rule.RuleSet

/-!
# Policies and the rule sets that pass

Both policies are read off one list, the ascending indexes of the rule sets that pass.  The first
match is decided by the head of that list and evaluates up to it.  The last match is decided by its
last index and evaluates everything.

The loops count from any index on and add to any trace (`firstMatchFrom_eq`, `lastMatchFrom_eq`).
`policies_of_passing` is the case of a whole list.
-/

namespace SurveyDispatch

namespace RuleSet

variable {record : Document}

/-- The indexes of the rule sets that pass, in ascending order. -/
def passing (record : Document) (sets : List RuleSet) : List Nat :=
  (List.range sets.length).filter fun i => sets[i]?.any (·.passes record)

theorem mem_passing_iff {sets : List RuleSet} {i : Nat} :
    i ∈ passing record sets ↔ ∃ s, sets[i]? = some s ∧ s.passes record = true := by
  rw [passing, List.mem_filter, List.mem_range, Option.any_eq_true]
  constructor
  · rintro ⟨-, s, found, passes⟩
    exact ⟨s, found, passes⟩
  · rintro ⟨s, found, passes⟩
    exact ⟨(List.getElem?_eq_some_iff.mp found).1, s, found, passes⟩

theorem passing_eq_nil_iff {sets : List RuleSet} :
    passing record sets = [] ↔ ∀ s ∈ sets, s.passes record = false := by
  rw [List.eq_nil_iff_forall_not_mem]
  constructor
  · intro none s mem
    obtain ⟨i, found⟩ := List.mem_iff_getElem?.mp mem
    rw [← Bool.not_eq_true]
    intro passes
    exact none i (mem_passing_iff.mpr ⟨s, found, passes⟩)
  · intro fails i mem
    obtain ⟨s, found, passes⟩ := mem_passing_iff.mp mem
    rw [fails s (List.mem_of_getElem? found)] at passes
    cases passes

theorem passing_cons (s : RuleSet) (rest : List RuleSet) :
    passing record (s :: rest) =
      (if s.passes record then [0] else []) ++ (passing record rest).map (· + 1) := by
  simp only [passing, List.length_cons, List.range_succ_eq_map, List.filter_cons, List.filter_map,
    List.getElem?_cons_zero, Option.any_some]
  cases s.passes record with
  | true => rfl
  | false => rfl

/-- The head of the passing indexes decides the first match.  What is evaluated ends with it. -/
theorem firstMatchFrom_eq (index : Nat) (sets : List RuleSet) (trace : Trace) :
    firstMatchFrom record index sets trace =
      match (passing record sets).head? with
      | none =>
        (⟨false, none⟩, ⟨trace.evaluated ++ List.range' index sets.length, trace.passed⟩)
      | some i =>
        (⟨true, (sets[i]?.bind RuleSet.alert).map (·.render record)⟩,
          ⟨trace.evaluated ++ List.range' index (i + 1), trace.passed ++ [index + i]⟩) := by
  induction sets generalizing index trace with
  | nil => simp [firstMatchFrom, passing]
  | cons s rest ih =>
    rw [passing_cons, firstMatchFrom]
    cases hs : s.passes record with
    | true => simp [Trace.record]
    | false =>
      rw [if_neg Bool.false_ne_true, ih]
      simp only [Bool.false_eq_true, if_false, List.nil_append, List.head?_map]
      cases (passing record rest).head? with
      | none => simp [Trace.record, List.range'_succ]
      | some i => simp [Trace.record, List.range'_succ, Nat.add_assoc, Nat.add_comm 1]

/-- The last of the passing indexes decides the last match, also if its rule set has no payload.
Everything is evaluated. -/
theorem lastMatchFrom_eq (index : Nat) (sets : List RuleSet) (selected : Option Document)
    (trace : Trace) :
    lastMatchFrom record index sets selected trace =
      (match (passing record sets).getLast? with
        | none => selected
        | some i => sets[i]?.bind RuleSet.routing,
      ⟨trace.evaluated ++ List.range' index sets.length,
        trace.passed ++ (passing record sets).map (index + ·)⟩) := by
  induction sets generalizing index selected trace with
  | nil => simp [lastMatchFrom, passing]
  | cons s rest ih =>
    have shift : (index + 1 + ·) = (index + ·) ∘ (· + 1) := by
      funext i
      simp only [Function.comp_apply]
      omega
    rw [passing_cons, lastMatchFrom, ih, shift]
    refine Prod.ext ?_ ?_
    · simp only [List.getLast?_append, List.getLast?_map]
      cases (passing record rest).getLast? with
      | none => cases s.passes record <;> rfl
      | some i => rfl
    · cases s.passes record with
      | true => simp [Trace.record, List.range'_succ]
      | false => simp [Trace.record, List.range'_succ]

theorem firstMatchTraced_matched (sets : List RuleSet) (trace : Trace) :
    (firstMatchTraced record sets trace).1.matched = true ↔ passing record sets ≠ [] := by
  rw [firstMatchTraced, firstMatchFrom_eq]
  cases passing record sets with
  | nil => simp
  | cons i rest => simp

/-- There is no match exactly when every rule set fails. -/
theorem firstMatch_matched_eq_false_iff {sets : List RuleSet} :
    (firstMatch record sets).matched = false ↔ ∀ s ∈ sets, s.passes record = false := by
  rw [← passing_eq_nil_iff, ← Bool.not_eq_true, firstMatch, firstMatchTraced_matched,
    ne_eq, Decidable.not_not]

theorem getLast?_passing {front rest : List RuleSet} {s : RuleSet} (passes : s.passes record = true)
    (after : ∀ t ∈ rest, t.passes record = false) :
    (passing record (front ++ s :: rest)).getLast? = some front.length := by
  induction front with
  | nil => simp [passing_cons, passes, passing_eq_nil_iff.mpr after]
  | cons t front ih =>
    rw [List.cons_append, passing_cons, List.getLast?_append, List.getLast?_map, ih]
    rfl

/-- The last rule set that passes gives its payload. -/
theorem lastMatch_of_passes {front rest : List RuleSet} {s : RuleSet} {default : Option Document}
    (passes : s.passes record = true) (after : ∀ t ∈ rest, t.passes record = false) :
    lastMatch record (front ++ s :: rest) default = s.routing.or default := by
  rw [lastMatch, lastMatchTraced, lastMatchFrom_eq, getLast?_passing passes after]
  simp

/-- The default stands in where no rule set passes. -/
theorem lastMatch_of_fails {sets : List RuleSet} {default : Option Document}
    (fails : ∀ s ∈ sets, s.passes record = false) : lastMatch record sets default = default := by
  rw [lastMatch, lastMatchTraced, lastMatchFrom_eq, passing_eq_nil_iff.mpr fails]
  rfl

/-- The two policies on a list of rule sets, with the traces they leave. -/
theorem policies_of_passing (record : Document) (sets : List RuleSet) (default : Option Document)
    (trace : Trace) :
    ((firstMatchTraced record sets trace).1.matched = true ↔ passing record sets ≠ []) ∧
      (firstMatchTraced record sets trace).1.message =
        ((passing record sets).head?.bind fun i => sets[i]?.bind RuleSet.alert).map
          (·.render record) ∧
      (firstMatchTraced record sets trace).2 =
        ⟨trace.evaluated ++ List.range (match (passing record sets).head? with
            | some i => i + 1
            | none => sets.length),
          trace.passed ++ (passing record sets).head?.toList⟩ ∧
      (lastMatchTraced record sets default trace).1 =
        ((passing record sets).getLast?.bind fun i => sets[i]?.bind RuleSet.routing).or default ∧
      (lastMatchTraced record sets default trace).2 =
        ⟨trace.evaluated ++ List.range sets.length, trace.passed ++ passing record sets⟩ := by
  refine ⟨firstMatchTraced_matched sets trace, ?_, ?_, ?_, ?_⟩
  · rw [firstMatchTraced, firstMatchFrom_eq]
    cases (passing record sets).head? with
    | none => rfl
    | some i => rfl
  · rw [firstMatchTraced, firstMatchFrom_eq]
    cases (passing record sets).head? with
    | none => simp [List.range_eq_range']
    | some i => simp [List.range_eq_range']
  · rw [lastMatchTraced, lastMatchFrom_eq]
    cases (passing record sets).getLast? with
    | none => rfl
    | some i => rfl
  · simp [lastMatchTraced, lastMatchFrom_eq, List.range_eq_range']

-- A rule set without a payload clears what an earlier one selected.
example : lastMatchTraced .null [⟨[], none, some (.text "a")⟩, ⟨[], none, none⟩]
    (some (.text "b")) .empty = (some (.text "b"), ⟨[0, 1], [0, 1]⟩) := by rfl

end RuleSet

end SurveyDispatch
