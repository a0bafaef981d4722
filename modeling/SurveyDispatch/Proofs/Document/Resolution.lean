import SurveyDispatch.Proofs.Document.Places
import SurveyDispatch.Proofs.Store.Keys
import SurveyDispatch.Proofs.Text.Digits

/-!
# Paths and places

A path spells a place.  Each of its segments spells the field of that name, and if it is made of
digits it spells an item too (`Step.Spelled`).  The value that the segment meets decides which of
the two is meant, since records have no items and lists have no fields.

Resolving a path stops at falsy values.  Of these, lists and records are empty and the others have
nothing below them anyway (`Document.below?_of_isFalsy`).  So the stop makes no difference:
resolving takes one step after the other (`Document.resolveFrom_cons`), and finds a value exactly if
the path spells its place (`Document.resolveFrom_eq_some_iff`).
-/

namespace SurveyDispatch

/-! ## Spelling steps -/

/-- A text of decimal digits for an index.  Leading zeros are allowed. -/
structure IsIndex (segment : String) (i : Nat) : Prop where
  /-- There are digits. -/
  ne_empty : segment ≠ ""
  /-- There is nothing else. -/
  digits : ∀ c ∈ segment.toList, c.isDigit = true
  /-- They denote the index. -/
  value : Digits.value segment.toList = i
  /-- Indexes have 64 bits. -/
  bound : i < 0x10000000000000000

/-- The segments that spell a step. -/
inductive Step.Spelled : Step → String → Prop where
  /-- A field is spelled by its name, if there is no slash in it. -/
  | field {name : String} : IsPart name → Spelled (.field name) name
  /-- An item is spelled by its index. -/
  | item {segment : String} {i : Nat} : IsIndex segment i → Spelled (.item i) segment

/-- A number below 2^64 is spelled by its digits. -/
theorem isIndex_write {i : Nat} (h : i < 0x10000000000000000) :
    IsIndex (.ofList (Digits.write i)) i where
  ne_empty := by
    intro empty
    have none : Digits.write i = [] := by
      simpa using congrArg String.toList empty
    exact Nat.toDigits_ne_nil none
  digits := by
    intro c mem
    rw [String.toList_ofList] at mem
    exact Digits.isDigit_of_mem_write mem
  value := by rw [String.toList_ofList, Digits.value_write]
  bound := h

/-- No index has a slash in it. -/
theorem IsIndex.isPart {segment : String} {i : Nat} (h : IsIndex segment i) : IsPart segment := by
  intro mem
  have digit := h.digits '/' mem
  revert digit
  decide

theorem Step.Spelled.isPart {step : Step} {segment : String} (h : step.Spelled segment) :
    IsPart segment := by
  cases h with
  | field part => exact part
  | item index => exact index.isPart

/-- Segments that spell steps have no slashes in them, so that joining them is unambiguous. -/
theorem isPart_of_spelled {steps : List Step} {segments : List String}
    (h : List.Forall₂ Step.Spelled steps segments) : ∀ s ∈ segments, IsPart s := by
  induction h with
  | nil => simp
  | cons spelled _ ih => simpa using ⟨spelled.isPart, ih⟩

namespace Document

variable {d e v : Document} {s : String} {rest : List String}

/-- A segment is read as an index exactly if it spells one, whatever its leading zeros. -/
theorem plainIndex?_eq_some_iff {i : Nat} : plainIndex? s = some i ↔ IsIndex s i := by
  have bounded : plainIndex? s = some i ↔
      Digits.value? s.toList = some i ∧ i < 0x10000000000000000 := by
    simp only [plainIndex?, indexOf?, Option.bind_eq_bind, Option.bind_eq_some_iff,
      Option.ite_none_right_eq_some, Option.some.injEq]
    constructor
    · rintro ⟨n, read, bound, rfl⟩
      exact ⟨read, bound⟩
    · rintro ⟨read, bound⟩
      exact ⟨i, read, bound, rfl⟩
  rw [bounded, Digits.value?_eq_some_iff]
  constructor
  · rintro ⟨⟨nonempty, digits, value⟩, bound⟩
    exact ⟨by simpa using nonempty, digits, value, bound⟩
  · intro index
    exact ⟨⟨by simpa using index.ne_empty, index.digits, index.value⟩, index.bound⟩

/-! ## Falsy values -/

/-- No segment leads on from a falsy value. -/
theorem child?_of_isFalsy {index? : String → Option Nat} (h : d.isFalsy = true) :
    d.child? index? s = none := by
  cases d with
  | null => rfl
  | bool _ => rfl
  | number _ => rfl
  | text _ => rfl
  | list items =>
    have empty : items = [] := List.isEmpty_iff.mp h
    subst empty
    cases index : index? s <;> simp [child?, index]
  | record fields =>
    have empty : fields = [] := List.isEmpty_iff.mp h
    subst empty
    rfl

/-- Nothing is below a falsy value. -/
theorem below?_of_isFalsy (h : d.isFalsy = true) (step : Step) : d.below? step = none := by
  cases d with
  | list items =>
    have empty : items = [] := List.isEmpty_iff.mp h
    subst empty
    cases step <;> rfl
  | record fields =>
    have empty : fields = [] := List.isEmpty_iff.mp h
    subst empty
    cases step <;> rfl
  | _ => cases step <;> rfl

/-! ## One segment after the other -/

/-- Stopping at falsy values makes no difference. -/
theorem resolveFrom_cons :
    d.resolveFrom (s :: rest) = (d.child? plainIndex? s).bind fun e => e.resolveFrom rest := by
  rw [resolveFrom]
  split
  next falsy => rw [child?_of_isFalsy falsy, Option.bind_none]
  next =>
    cases d.child? plainIndex? s with
    | none => rfl
    | some e => rfl

/-- A segment leads where one of the steps leads that it spells. -/
theorem child?_eq_some_iff_below? (part : IsPart s) :
    d.child? plainIndex? s = some e ↔ ∃ step : Step, step.Spelled s ∧ d.below? step = some e := by
  constructor
  · intro child
    cases d with
    | record fields => exact ⟨.field s, .field part, child⟩
    | list items =>
      obtain ⟨i, index, item⟩ := Option.bind_eq_some_iff.mp child
      exact ⟨.item i, .item (plainIndex?_eq_some_iff.mp index), item⟩
    | _ => cases child
  · rintro ⟨step, spelled, below⟩
    cases spelled with
    | field _ =>
      cases d with
      | record fields => exact below
      | _ => cases below
    | item index =>
      cases d with
      | list items =>
        exact Option.bind_eq_some_iff.mpr ⟨_, plainIndex?_eq_some_iff.mpr index, below⟩
      | _ => cases below

/-- Segments lead to the value at the place that they spell. -/
theorem resolveFrom_eq_some_iff {segments : List String} (parts : ∀ s ∈ segments, IsPart s) :
    d.resolveFrom segments = some v ↔
      ∃ steps, List.Forall₂ Step.Spelled steps segments ∧ d.at? steps = some v := by
  induction segments generalizing d with
  | nil =>
    rw [resolveFrom, Option.some.injEq]
    constructor
    · rintro rfl
      exact ⟨[], .nil, rfl⟩
    · rintro ⟨_, ⟨⟩, there⟩
      exact Option.some.inj there
  | cons s rest ih =>
    obtain ⟨part, parts⟩ := List.forall_mem_cons.mp parts
    rw [resolveFrom_cons, Option.bind_eq_some_iff]
    constructor
    · rintro ⟨e, child, found⟩
      obtain ⟨step, spelled, below⟩ := (child?_eq_some_iff_below? part).mp child
      obtain ⟨steps, spelled', there⟩ := (ih parts).mp found
      exact ⟨step :: steps, .cons spelled spelled', by rw [at?, below, Option.bind_some, there]⟩
    · rintro ⟨_, spelled, there⟩
      cases spelled with
      | cons spelled spelled' =>
        obtain ⟨e, below, there⟩ := Option.bind_eq_some_iff.mp there
        exact ⟨e, (child?_eq_some_iff_below? part).mpr ⟨_, spelled, below⟩,
          (ih parts).mpr ⟨_, spelled', there⟩⟩

/-- Every value of a document is found at the paths that spell its place, and a path finds nothing
else.  What is below a value is never hidden because the value is falsy: then nothing is. -/
theorem resolve_addresses (d : Document) :
    (∀ steps segments v, steps ≠ [] → List.Forall₂ Step.Spelled steps segments →
      d.at? steps = some v → d.resolve ("/".intercalate segments) = some v) ∧
    (∀ path v, d.resolve path = some v →
      ∃ steps, List.Forall₂ Step.Spelled steps (segments path) ∧ d.at? steps = some v) ∧
    ∀ steps e, d.at? steps = some e → e.isFalsy = true →
      ∀ step rest, d.at? (steps ++ step :: rest) = none := by
  refine ⟨?_, ?_, ?_⟩
  · intro steps parts v nonempty spelled there
    have behind : parts ≠ [] := by
      rintro rfl
      cases spelled
      exact nonempty rfl
    have isPart := isPart_of_spelled spelled
    rw [resolve, segments_intercalate behind isPart]
    exact (resolveFrom_eq_some_iff isPart).mpr ⟨steps, spelled, there⟩
  · intro path v found
    exact (resolveFrom_eq_some_iff fun s => isPart_of_mem_segments).mp found
  · intro steps e there falsy step rest
    rw [at?_append, there, Option.bind_some, at?, below?_of_isFalsy falsy, Option.bind_none]

/-- An empty text behind empty names and two indexes. -/
def hollow : Document := .record [("", .list [.null, .list [.record [("", .text "")]]])]

/-- The empty text is found there, also with leading zeros, and nothing is below it. -/
theorem resolve_addresses_hollow :
    hollow.resolve "/001/0/" = some (.text "") ∧
      ∃ steps, List.Forall₂ Step.Spelled steps (segments "/001/0/") ∧
        hollow.at? steps = some (.text "") ∧
        ∀ step rest, hollow.at? (steps ++ step :: rest) = none := by
  have name : Step.Spelled (.field "") "" := .field (by simp [IsPart])
  have second : Step.Spelled (.item 1) "001" :=
    .item ⟨by decide, List.all_eq_true.mp (by decide), by decide, by decide⟩
  have zero : String.ofList (Digits.write 0) = "0" := by decide
  have first : Step.Spelled (.item 0) "0" := zero ▸ .item (isIndex_write (by decide))
  obtain ⟨finds, leads, hides⟩ := resolve_addresses hollow
  have found := finds [.field "", .item 1, .item 0, .field ""] ["", "001", "0", ""] (.text "")
    (List.cons_ne_nil _ _) (.cons name (.cons second (.cons first (.cons name .nil)))) rfl
  obtain ⟨steps, spelled, there⟩ := leads "/001/0/" (.text "") found
  exact ⟨found, steps, spelled, there, hides steps _ there rfl⟩

end Document

end SurveyDispatch
