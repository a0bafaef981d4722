import Mathlib.Data.List.Basic
import SurveyDispatch.Proofs.Document.Paths

/-!
# Places in documents

A place is a list of steps from the root, each to a field of a record or to an item of a list.  The
*surface* of a value is what it shows without a step down: a list shows its length, a record its
names in order, and any other value shows itself.  So surfaces at all places determine a document
with distinct names (`eq_of_surfaces`).

`SameBut` says that two documents agree outside of some places.  A change at a path is made where
the path leads (`Leads`), and outside of that place nothing changes (`sameBut_modifyAt`).
-/

namespace SurveyDispatch

/-- A step down into a document. -/
inductive Step where
  /-- To the value of a field. -/
  | field (name : String)
  /-- To an item. -/
  | item (index : Nat)
  deriving DecidableEq

namespace Document

/-- The value one step down. -/
def below? : Step → Document → Option Document
  | .field name, record fields => fields.lookup name
  | .item i, list items => items[i]?
  | _, _ => none

/-- The value at a place. -/
def at? : List Step → Document → Option Document
  | [], d => some d
  | s :: rest, d => (d.below? s).bind (at? rest)

/-- The place behind two sequences of steps is that behind the second one, seen from the first. -/
theorem at?_append (p q : List Step) (d : Document) : d.at? (p ++ q) = (d.at? p).bind (at? q) := by
  induction p generalizing d with
  | nil => rfl
  | cons s rest ih =>
    rw [List.cons_append, at?, at?, Option.bind_assoc]
    exact congrArg (Option.bind (d.below? s)) (funext ih)

/-- There is nothing inside of a text. -/
theorem at?_text_cons (t : String) (s : Step) (rest : List Step) :
    (text t).at? (s :: rest) = none := by
  cases s with
  | field name => rfl
  | item i => rfl

/-! ## Fields with distinct names -/

/-- Among distinct names, looking up a name finds every field there is. -/
theorem lookup_eq_some_iff_mem {fields : List (String × Document)}
    (nodup : (fields.map Prod.fst).Nodup) {name : String} {v : Document} :
    fields.lookup name = some v ↔ (name, v) ∈ fields := by
  rw [List.lookup_eq_some_iff]
  constructor
  · rintro ⟨front, rest, rfl, -⟩
    exact List.mem_append_right _ List.mem_cons_self
  · intro mem
    obtain ⟨front, rest, rfl⟩ := List.append_of_mem mem
    refine ⟨front, rest, rfl, fun f before => ?_⟩
    rw [List.map_append, List.map_cons, List.nodup_append] at nodup
    rw [bne_iff_ne]
    exact fun eq => nodup.2.2 f.1 (List.mem_map_of_mem before) name List.mem_cons_self eq.symm

theorem mem_of_lookup {fields : List (String × Document)} {name : String} {v : Document}
    (h : fields.lookup name = some v) : (name, v) ∈ fields := by
  obtain ⟨front, rest, rfl, -⟩ := List.lookup_eq_some_iff.mp h
  exact List.mem_append_right _ List.mem_cons_self

/-- Looking up a name finds nothing exactly if no field has it. -/
theorem lookup_eq_none_iff_not_mem {fields : List (String × Document)} {name : String} :
    fields.lookup name = none ↔ name ∉ fields.map Prod.fst := by
  rw [List.lookup_eq_none_iff, List.mem_map]
  constructor
  · rintro none ⟨f, mem, rfl⟩
    exact bne_iff_ne.mp (none f mem) rfl
  · intro fresh f mem
    rw [bne_iff_ne]
    exact fun eq => fresh ⟨f, mem, eq.symm⟩

/-- Changing the values in place changes what is found under a name. -/
theorem lookup_map (change : String × Document → Document) (fields : List (String × Document))
    (name : String) :
    (fields.map fun f => (f.1, change f)).lookup name =
      (fields.lookup name).map fun v => change (name, v) := by
  induction fields with
  | nil => rfl
  | cons f rest ih =>
    rw [List.map_cons, List.lookup_cons, List.lookup_cons, ih]
    cases same : name == f.1 with
    | true =>
      obtain rfl := beq_iff_eq.mp same
      rfl
    | false => rfl

/-- Changing a field keeps what is found under other names. -/
theorem lookup_modifyField_of_ne {f : Document → Document} {name other : String}
    (h : other ≠ name) (fields : List (String × Document)) :
    (modifyField name f fields).lookup other = fields.lookup other := by
  induction fields with
  | nil => rfl
  | cons e rest ih =>
    obtain ⟨n, v⟩ := e
    rw [modifyField]
    split
    next eq =>
      have differ : (other == n) = false := beq_eq_false_iff_ne.mpr (eq ▸ h)
      simp only [List.lookup_cons, differ]
    next ne => rw [List.lookup_cons, List.lookup_cons, ih]

/-- Changing a field keeps all names and their order. -/
theorem names_modifyField (name : String) (f : Document → Document)
    (fields : List (String × Document)) :
    (modifyField name f fields).map Prod.fst = fields.map Prod.fst := by
  induction fields with
  | nil => rfl
  | cons e rest ih =>
    rw [modifyField]
    split
    · rfl
    · rw [List.map_cons, ih, List.map_cons]

/-! ## Surfaces -/

/-- What a value shows without a step down. -/
def surface : Document → Document
  | list items => list (items.map fun _ => null)
  | record fields => record (fields.map fun f => (f.1, null))
  | d => d

/-- The surface of a list shows how many items it has, and no more. -/
theorem surface_list_eq_iff {items : List Document} {d : Document} :
    (list items).surface = d.surface ↔
      ∃ others, d = list others ∧ items.length = others.length := by
  cases d with
  | list others => simp [surface, List.map_const']
  | _ => simp [surface]

/-- The surface of a record shows its names in order, and no more. -/
theorem surface_record_eq_iff {fields : List (String × Document)} {d : Document} :
    (record fields).surface = d.surface ↔
      ∃ others, d = record others ∧ fields.map Prod.fst = others.map Prod.fst := by
  have names : ∀ fields : List (String × Document),
      fields.map (fun f => (f.1, null)) = (fields.map Prod.fst).map fun n => (n, null) :=
    fun fields => by rw [List.map_map]; rfl
  have inj : Function.Injective fun n : String => (n, null) := fun m n eq => (Prod.mk.inj eq).1
  cases d with
  | record others =>
    simp only [surface, record.injEq, names, inj.list_map.eq_iff, exists_eq_left']
  | _ => simp [surface]

/-- Nothing is below a value that is neither a list nor a record, so its surface shows it whole. -/
theorem surface_of_leaf {d : Document} (notList : ∀ items, d ≠ list items)
    (notRecord : ∀ fields, d ≠ record fields) : d.surface = d := by
  cases d with
  | list items => exact absurd rfl (notList items)
  | record fields => exact absurd rfl (notRecord fields)
  | _ => rfl

/-- A value that is neither a list nor a record is determined by its surface. -/
theorem eq_of_surface_eq {d e : Document} (h : d.surface = e.surface)
    (notList : ∀ items, d ≠ list items) (notRecord : ∀ fields, d ≠ record fields) : d = e := by
  rw [surface_of_leaf notList notRecord] at h
  cases e with
  | list others => exact absurd h (notList _)
  | record others => exact absurd h (notRecord _)
  | _ => exact h

/-- Documents with distinct names are equal if their surfaces are equal at every place. -/
theorem eq_of_surfaces {d e : Document} (hd : d.Distinct) (he : e.Distinct)
    (h : ∀ place, (d.at? place).map surface = (e.at? place).map surface) : d = e := by
  have root : d.surface = e.surface := Option.some.inj (h [])
  induction d generalizing e with
  | null => exact eq_of_surface_eq root (by simp) (by simp)
  | bool _ => exact eq_of_surface_eq root (by simp) (by simp)
  | number _ => exact eq_of_surface_eq root (by simp) (by simp)
  | text _ => exact eq_of_surface_eq root (by simp) (by simp)
  | list items ih =>
    obtain ⟨others, rfl, length⟩ := surface_list_eq_iff.mp root
    refine congrArg list (List.ext_getElem length fun i hi hi' => ?_)
    have below : ∀ place, (items[i].at? place).map surface = (others[i].at? place).map surface :=
      fun place => by simpa [at?, below?, hi, hi'] using h (.item i :: place)
    exact ih _ (List.getElem_mem hi) (distinct_list_iff.mp hd _ (List.getElem_mem hi))
      (distinct_list_iff.mp he _ (List.getElem_mem hi')) below (Option.some.inj (below []))
  | record fields ih =>
    obtain ⟨others, rfl, names⟩ := surface_record_eq_iff.mp root
    obtain ⟨nodup, distinct⟩ := distinct_record_iff.mp hd
    obtain ⟨nodup', distinct'⟩ := distinct_record_iff.mp he
    have length : fields.length = others.length := by
      simpa using congrArg List.length names
    refine congrArg record (List.ext_getElem length fun i hi hi' => ?_)
    have name : fields[i].1 = others[i].1 := by
      have both := List.getElem_of_eq names (by simpa using hi)
      simpa using both
    have found : fields.lookup fields[i].1 = some fields[i].2 :=
      (lookup_eq_some_iff_mem nodup).mpr (List.getElem_mem hi)
    have found' : others.lookup fields[i].1 = some others[i].2 :=
      (lookup_eq_some_iff_mem nodup').mpr (name ▸ List.getElem_mem hi')
    have below : ∀ place,
        (fields[i].2.at? place).map surface = (others[i].2.at? place).map surface :=
      fun place => by simpa [at?, below?, found, found'] using h (.field fields[i].1 :: place)
    exact Prod.ext name (ih _ (List.getElem_mem hi) (distinct _ (List.getElem_mem hi))
      (distinct' _ (List.getElem_mem hi')) below (Option.some.inj (below [])))

/-! ## Agreement outside of places -/

/-- Two documents have the same surfaces outside of some places. -/
def SameBut (places : List Step → Prop) (d e : Document) : Prop :=
  ∀ place, ¬ places place → (d.at? place).map surface = (e.at? place).map surface

theorem SameBut.refl (places : List Step → Prop) (d : Document) : SameBut places d d :=
  fun _ _ => rfl

/-- Documents with one surface that agree below each step. -/
theorem sameBut_of_below {places : List Step → Prop} {d e : Document} (root : d.surface = e.surface)
    (below : ∀ s, Option.Rel (SameBut fun rest => places (s :: rest)) (d.below? s) (e.below? s)) :
    SameBut places d e := by
  intro place outside
  cases place with
  | nil => exact congrArg some root
  | cons s rest =>
    have rel := below s
    rw [at?, at?]
    generalize d.below? s = v at rel ⊢
    generalize e.below? s = w at rel ⊢
    cases rel with
    | none => rfl
    | some same => exact same rest outside

theorem rel_sameBut_refl (places : List Step → Prop) (d : Option Document) :
    Option.Rel (SameBut places) d d := by
  cases d with
  | none => exact .none
  | some d => exact .some (.refl places d)

/-- A record in which each value is changed. -/
theorem sameBut_record_map {places : List Step → Prop} (change : String × Document → Document)
    {fields : List (String × Document)}
    (h : ∀ f ∈ fields, SameBut (fun rest => places (.field f.1 :: rest)) f.2 (change f)) :
    SameBut places (record fields) (record (fields.map fun f => (f.1, change f))) := by
  refine sameBut_of_below (surface_record_eq_iff.mpr ⟨_, rfl, ?_⟩) fun s => ?_
  · rw [List.map_map]
    rfl
  · cases s with
    | item i => exact .none
    | field name =>
      rw [below?, below?, lookup_map]
      cases found : fields.lookup name with
      | none => exact .none
      | some v => exact .some (h _ (mem_of_lookup found))

/-! ## Where a path leads -/

/-- A path leads from a document to a value, with these steps. -/
inductive Leads : Document → List String → List Step → Document → Prop where
  | here {d : Document} : Leads d [] [] d
  | field {fields : List (String × Document)} {name : String} {e v : Document}
      {segments : List String} {steps : List Step} :
      fields.lookup name = some e → Leads e segments steps v →
      Leads (record fields) (name :: segments) (.field name :: steps) v
  | item {items : List Document} {segment : String} {i : Nat} {e v : Document}
      {segments : List String} {steps : List Step} :
      signedIndex? segment = some i → items[i]? = some e → Leads e segments steps v →
      Leads (list items) (segment :: segments) (.item i :: steps) v

/-- A path that finds a value leads to it by some steps. -/
theorem exists_leads {d v : Document} {segments : List String}
    (h : d.lookupFrom segments = some v) : ∃ steps, Leads d segments steps v := by
  induction segments generalizing d with
  | nil =>
    cases h
    exact ⟨[], .here⟩
  | cons s rest ih =>
    rw [lookupFrom_cons] at h
    obtain ⟨e, child, h⟩ := Option.bind_eq_some_iff.mp h
    obtain ⟨steps, leads⟩ := ih h
    cases d with
    | record fields => exact ⟨_, .field child leads⟩
    | list items =>
      obtain ⟨i, index, item⟩ := Option.bind_eq_some_iff.mp child
      exact ⟨_, .item index item leads⟩
    | _ => cases child

variable {d v : Document} {segments : List String} {steps : List Step} {f : Document → Document}

/-- The steps by which a path leads to a value end at that value. -/
theorem Leads.at?_eq (h : Leads d segments steps v) : d.at? steps = some v := by
  induction h with
  | here => rfl
  | field found _ ih => rw [at?, below?, found, Option.bind_some, ih]
  | item _ found _ ih => rw [at?, below?, found, Option.bind_some, ih]

/-- A path that starts with an index changes the item of that index. -/
theorem modifyAt_item {items : List Document} {segment : String} {i : Nat}
    (index : signedIndex? segment = some i) (segments : List String) :
    modifyAt f (segment :: segments) (list items) =
      list (items.modify i (modifyAt f segments)) := by
  simp only [modifyAt, index]

/-- After a change at a path, the path leads to the changed value. -/
theorem leads_modifyAt (h : Leads d segments steps v) :
    Leads (modifyAt f segments d) segments steps (f v) := by
  induction h with
  | here => exact .here
  | field found _ ih =>
    refine .field ?_ ih
    rw [lookup_modifyField, found, Option.map_some]
  | item index found _ ih =>
    rw [modifyAt_item index]
    refine .item index ?_ ih
    rw [List.getElem?_modify_eq, found]
    rfl

/-- Outside of the place to which a path leads, a change at the path changes nothing. -/
theorem sameBut_modifyAt (h : Leads d segments steps v) {places : List Step → Prop}
    (same : SameBut (fun rest => places (steps ++ rest)) v (f v)) :
    SameBut places d (modifyAt f segments d) := by
  induction h generalizing places with
  | here => exact same
  | @field fields name e v segments steps found _ ih =>
    refine sameBut_of_below
      (surface_record_eq_iff.mpr ⟨_, rfl, (names_modifyField _ _ _).symm⟩) fun s => ?_
    cases s with
    | item i => exact .none
    | field other =>
      rw [modifyAt, below?, below?]
      by_cases eq : other = name
      · subst eq
        rw [lookup_modifyField, found]
        exact .some (ih same)
      · rw [lookup_modifyField_of_ne eq]
        exact rel_sameBut_refl _ _
  | @item items segment i e v segments steps index found _ ih =>
    rw [modifyAt_item index]
    refine sameBut_of_below
      (surface_list_eq_iff.mpr ⟨_, rfl, (List.length_modify _ _ _).symm⟩) fun s => ?_
    cases s with
    | field name => exact .none
    | item j =>
      rw [below?, below?]
      by_cases eq : i = j
      · subst eq
        rw [List.getElem?_modify_eq, found]
        exact .some (ih same)
      · rw [List.getElem?_modify_ne _ _ eq]
        exact rel_sameBut_refl _ _

end Document

end SurveyDispatch
