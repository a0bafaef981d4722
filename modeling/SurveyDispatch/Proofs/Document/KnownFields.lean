import SurveyDispatch.Document.Fields
import SurveyDispatch.Proofs.Document.Places
import SurveyDispatch.Proofs.Document.Sequences

/-!
# Known fields there and back

Settings and rules are written as records that name every field by the first of its names.  The
values of such a record are found again (`Document.fieldValues?_record`), where it matters that no
field goes by a name of another one.

Each way to write a value is undone by a way to read it.  The exception is null where it stands for
an absent value.  An optional null is written but not read again, and a reader never makes one
(`Document.isPresent_of_optional`).
-/

namespace SurveyDispatch

namespace Document

/-! ## Fields -/

section

variable {front rest : List (String × Document)} {name : String}

/-- A field that occurs once and under no other of its names has its value. -/
theorem valueOf?_of_split {v : Document} {others : List String} (fresh : name ∉ front.map Prod.fst)
    (unused : ∀ n ∈ others, n ∉ (front ++ (name, v) :: rest).map Prod.fst) :
    valueOf? (front ++ (name, v) :: rest) (name :: others) = some (some v) := by
  have own : (front ++ (name, v) :: rest).lookup name = some v := by
    rw [List.lookup_append, lookup_eq_none_iff_not_mem.mpr fresh, Option.none_or,
      List.lookup_cons_self]
  have only : others.filterMap (fun n => (front ++ (name, v) :: rest).lookup n) = [] :=
    List.filterMap_eq_nil_iff.mpr fun n mem => lookup_eq_none_iff_not_mem.mpr (unused n mem)
  simp only [valueOf?, List.filterMap_cons, own, only]

end

/-- The values of a record whose fields go by the first of their names. -/
theorem fieldValues?_record {c : Conventions} {names : List (List String)}
    {fields : List (String × Document)}
    (own : names.map List.head? = fields.map fun f => some f.1) (distinct : names.flatten.Nodup) :
    fieldValues? c names (record fields) = some (fields.map fun f => some f.2) := by
  suffices ∀ front : List (String × Document), (∀ n ∈ names.flatten, n ∉ front.map Prod.fst) →
      names.mapM (valueOf? (front ++ fields)) = some (fields.map fun f => some f.2) from
    this [] fun _ _ => List.not_mem_nil
  induction names generalizing fields with
  | nil =>
    intro front _
    cases List.map_eq_nil_iff.mp own.symm
    rfl
  | cons ns names ih =>
    intro front fresh
    cases fields with
    | nil => cases own
    | cons f fs =>
      obtain ⟨name, v⟩ := f
      obtain ⟨head, tail⟩ := List.cons.inj own
      obtain ⟨others, rfl⟩ := List.head?_eq_some_iff.mp head
      -- The names of the fields behind this one are among the names that are left.
      have behind : ∀ n ∈ fs.map Prod.fst, n ∈ names.flatten := by
        intro n mem
        obtain ⟨f, known, eq⟩ := List.mem_map.mp mem
        have first : some f.1 ∈ names.map List.head? := by
          rw [tail]
          exact List.mem_map_of_mem known
        obtain ⟨ms, listed, first⟩ := List.mem_map.mp first
        rw [eq] at first
        exact List.mem_flatten.mpr ⟨ms, listed, List.mem_of_head? first⟩
      rw [List.flatten_cons, List.forall_mem_append] at fresh
      obtain ⟨here, later, apart⟩ := List.nodup_append.mp distinct
      obtain ⟨unlike, -⟩ := List.nodup_cons.mp here
      have value : valueOf? (front ++ (name, v) :: fs) (name :: others) = some (some v) := by
        refine valueOf?_of_split (fresh.1 name List.mem_cons_self) fun n mem => ?_
        have other := List.mem_cons_of_mem name mem
        rw [List.map_append, List.map_cons, List.mem_append, List.mem_cons]
        rintro (mem' | rfl | mem')
        · exact fresh.1 n other mem'
        · exact unlike mem
        · exact apart n other n (behind n mem') rfl
      have left : names.mapM (valueOf? (front ++ [(name, v)] ++ fs)) =
          some (fs.map fun f => some f.2) := by
        refine ih tail later _ fun n mem => ?_
        rw [List.map_append, List.map_cons, List.map_nil, List.mem_append, List.mem_singleton]
        rintro (mem' | rfl)
        · exact fresh.2 n mem mem'
        · exact apart n List.mem_cons_self n mem rfl
      rw [List.append_assoc, List.singleton_append] at left
      rw [List.mapM_cons, value, left]
      rfl

/-! ## Lists, dictionaries and optional values -/

section

variable {α : Type} {c : Conventions} {read : Document → Option α} {write : α → Document}

/-- A list reads back if each of its items does. -/
theorem asList?_map {xs : List α} (h : ∀ x ∈ xs, read (write x) = some x) :
    asList? read (list (xs.map write)) = some xs := by
  rw [asList?, List.mapM_map, mapM_some (f := read ∘ write) (g := id) h, List.map_id]

theorem asList?_some (items : List Document) : asList? some (list items) = some items :=
  (mapM_some fun _ _ => rfl).trans (congrArg some (List.map_id' items))

theorem asList?_ofTexts (ss : List String) : asList? asText? (ofTexts ss) = some ss :=
  asList?_map fun _ _ => rfl

/-- A dictionary reads back. -/
theorem asDictionary?_ofDictionary (d : Dictionary String) :
    asDictionary? (ofDictionary d) = some d := by
  rw [ofDictionary, asDictionary?, List.mapM_map]
  refine Option.bind_eq_some_iff.mpr ⟨d.entries, ?_, congrArg some (Dictionary.ofList_entries d)⟩
  exact (mapM_some (g := id) fun _ _ => rfl).trans (congrArg some (List.map_id _))

/-! ## Optional values -/

/-- An optional value is not null. -/
def IsPresent (d : Option Document) : Prop := ∀ v ∈ d, v.isNull = false

/-- A value that may be absent reads back if no present one is written as null. -/
theorem optional_ofOption {a : Option α} (nulls : c.nullIsAbsent = true)
    (back : ∀ x ∈ a, read (write x) = some x) (present : ∀ x ∈ a, (write x).isNull = false) :
    optional c read (some (ofOption write a)) = some a := by
  cases a with
  | none => simp [optional, ofOption, isNull, nulls]
  | some x => simp [optional, ofOption, present x rfl, back x rfl]

/-- A payload that may be absent reads back exactly if it is not null. -/
theorem optional_payload {a : Option Document} (nulls : c.nullIsAbsent = true) :
    optional c some (some (ofOption id a)) = some a ↔ IsPresent a := by
  constructor
  · rintro back v rfl
    cases null : v.isNull with
    | false => rfl
    | true => simp [optional, ofOption, nulls, null] at back
  · intro present
    exact optional_ofOption nulls (fun _ _ => rfl) present

/-- A payload that was read is not null, since null counts as absent. -/
theorem isPresent_of_optional {d : Option Document} {a : Option Document}
    (nulls : c.nullIsAbsent = true) (h : optional c some d = some a) : IsPresent a := by
  cases d with
  | none =>
    cases h
    exact nofun
  | some v =>
    cases null : v.isNull with
    | true =>
      rw [optional, nulls, null] at h
      cases h
      exact nofun
    | false =>
      rw [optional, null, Bool.and_false] at h
      cases h
      rintro _ ⟨⟩
      exact null

/-! ## What is read -/

/-- What holds of every result holds of all results of a list. -/
theorem forall_of_mapM {β γ : Type} {f : β → Option γ} {P : γ → Prop}
    (h : ∀ x y, f x = some y → P y) {l : List β} {ys : List γ} (all : l.mapM f = some ys) :
    ∀ y ∈ ys, P y := by
  induction l generalizing ys with
  | nil =>
    cases all
    exact nofun
  | cons x xs ih =>
    rw [List.mapM_cons] at all
    obtain ⟨y, hy, all⟩ := Option.bind_eq_some_iff.mp all
    obtain ⟨rest, hrest, eq⟩ := Option.bind_eq_some_iff.mp all
    cases eq
    exact List.forall_mem_cons.mpr ⟨h x y hy, ih hrest⟩

theorem forall_of_asList? {P : α → Prop} (h : ∀ d x, read d = some x → P x) {d : Document}
    {xs : List α} (items : asList? read d = some xs) : ∀ x ∈ xs, P x := by
  cases d with
  | list ds => exact forall_of_mapM h items
  | _ => cases items

/-- What holds of the default and of every value that is read holds of what is read. -/
theorem of_orElse {P : α → Prop} {default : α} (absent : P default)
    (h : ∀ d x, read d = some x → P x) {d : Option Document} {a : α}
    (held : orElse default read d = some a) : P a := by
  cases d with
  | none =>
    cases held
    exact absent
  | some v => exact h v a held

end

end Document

end SurveyDispatch
