import SurveyDispatch.Proofs.Document.Nesting
import SurveyDispatch.Document.Path

/-!
# Changing values at paths

`Document.modifyAt` changes the value that is looked up at the segments of a path, and replacing a
value is a special case.  A change at a path is seen by a lookup of that path
(`lookupFrom_modifyAt`).  Two changes at one path are one (`modifyAt_modifyAt`), and changes that
agree on the value there are equal (`modifyAt_congr`).

A change that keeps the skeleton of the value keeps the skeleton of the whole
(`skeleton_modifyAt`).
-/

namespace SurveyDispatch.Document

/-- Changes the value that is looked up at the segments.  Nothing changes if there is none. -/
def modifyAt (f : Document → Document) : List String → (Document → Document)
  | [] => f
  | s :: rest => fun
    | record fields => record (modifyField s (modifyAt f rest) fields)
    | list items =>
      match signedIndex? s with
      | some i => list (items.modify i (modifyAt f rest))
      | none => list items
    | d => d

variable {f g : Document → Document}

/-- Replacing a value is a change to it that does not look at it. -/
theorem replaceAt_eq_modifyAt (value : Document) (path : List String) :
    replaceAt value path = modifyAt (fun _ => value) path := by
  induction path with
  | nil => rfl
  | cons s rest ih =>
    funext d
    cases d with
    | null => rfl
    | bool _ => rfl
    | number _ => rfl
    | text _ => rfl
    | list items =>
      exact congrArg (fun f => match signedIndex? s with
        | some i => list (items.modify i f)
        | none => list items) ih
    | record fields => exact congrArg (fun f => record (modifyField s f fields)) ih

/-- A change along a longer path is a change below the value at its front. -/
theorem modifyAt_append (p q : List String) : modifyAt f (p ++ q) = modifyAt (modifyAt f q) p := by
  induction p with
  | nil => rfl
  | cons s rest ih =>
    funext d
    cases d with
    | null => rfl
    | bool _ => rfl
    | number _ => rfl
    | text _ => rfl
    | list items => simp only [List.cons_append, modifyAt, ih]
    | record fields => simp only [List.cons_append, modifyAt, ih]

/-! ## Fields -/

/-- Looking up the field that was changed gives its changed value. -/
theorem lookup_modifyField (name : String) (fields : List (String × Document)) :
    (modifyField name f fields).lookup name = (fields.lookup name).map f := by
  induction fields with
  | nil => rfl
  | cons e rest ih =>
    obtain ⟨n, v⟩ := e
    rw [modifyField]
    split
    next eq => simp only [eq, List.lookup_cons, beq_self_eq_true, Option.map_some]
    next ne =>
      have differ : (name == n) = false := beq_eq_false_iff_ne.mpr (Ne.symm ne)
      simp only [List.lookup_cons, differ, ih]

/-- Changes that agree on the value of a field do the same to the record. -/
theorem modifyField_congr {name : String} {fields : List (String × Document)}
    (h : ∀ v, fields.lookup name = some v → f v = g v) :
    modifyField name f fields = modifyField name g fields := by
  induction fields with
  | nil => rfl
  | cons e rest ih =>
    obtain ⟨n, v⟩ := e
    rw [modifyField, modifyField]
    split
    next eq => rw [h v (by simp only [eq, List.lookup_cons, beq_self_eq_true])]
    next ne =>
      have differ : (name == n) = false := beq_eq_false_iff_ne.mpr (Ne.symm ne)
      rw [ih fun w hw => h w (by simp only [List.lookup_cons, differ, hw])]

theorem modifyField_modifyField (name : String) (fields : List (String × Document)) :
    modifyField name f (modifyField name g fields) =
      modifyField name (fun v => f (g v)) fields := by
  induction fields with
  | nil => rfl
  | cons e rest ih =>
    obtain ⟨n, v⟩ := e
    by_cases eq : n = name
    · simp only [modifyField, eq, if_true]
    · simp only [modifyField, eq, if_false, ih]

theorem modifyField_id (name : String) (fields : List (String × Document)) :
    modifyField name (fun v => v) fields = fields := by
  induction fields with
  | nil => rfl
  | cons e rest ih => simp only [modifyField, ih, ite_self]

/-! ## Paths -/

theorem lookupFrom_cons {d : Document} {s : String} {rest : List String} :
    d.lookupFrom (s :: rest) = (d.child? signedIndex? s).bind fun e => e.lookupFrom rest := by
  rw [lookupFrom]
  cases d.child? signedIndex? s with
  | none => rfl
  | some e => rfl

/-- One step along the path of a change leads to a child that was changed along the rest. -/
theorem child?_modifyAt (s : String) (rest : List String) (d : Document) :
    (modifyAt f (s :: rest) d).child? signedIndex? s =
      (d.child? signedIndex? s).map (modifyAt f rest) := by
  cases d with
  | null => rfl
  | bool _ => rfl
  | number _ => rfl
  | text _ => rfl
  | list items =>
    cases index : signedIndex? s with
    | none => simp [modifyAt, child?, index]
    | some i => simp [modifyAt, child?, index, List.getElem?_modify]
  | record fields => exact lookup_modifyField s fields

/-- A lookup sees a change at its path. -/
theorem lookupFrom_modifyAt (path : List String) (d : Document) :
    (modifyAt f path d).lookupFrom path = (d.lookupFrom path).map f := by
  induction path generalizing d with
  | nil => rfl
  | cons s rest ih =>
    rw [lookupFrom_cons, lookupFrom_cons, child?_modifyAt]
    cases d.child? signedIndex? s with
    | none => rfl
    | some e => exact ih e

/-- Changes that agree on the value at the path are equal. -/
theorem modifyAt_congr {path : List String} {d : Document}
    (h : ∀ v, d.lookupFrom path = some v → f v = g v) : modifyAt f path d = modifyAt g path d := by
  induction path generalizing d with
  | nil => exact h d rfl
  | cons s rest ih =>
    have below : ∀ e, d.child? signedIndex? s = some e → modifyAt f rest e = modifyAt g rest e :=
      fun e he => ih fun v hv => h v (by rw [lookupFrom_cons, he, Option.bind_some, hv])
    cases d with
    | null => rfl
    | bool _ => rfl
    | number _ => rfl
    | text _ => rfl
    | list items =>
      simp only [modifyAt]
      cases index : signedIndex? s with
      | none => rfl
      | some i =>
        refine congrArg list (List.ext_getElem? fun j => ?_)
        rw [List.getElem?_modify, List.getElem?_modify]
        by_cases eq : i = j
        · subst eq
          cases item : items[i]? with
          | none => rfl
          | some e =>
            have same := below e (by simp only [child?, index, item, Option.bind_eq_bind,
              Option.bind_some])
            simp [same]
        · simp [eq]
    | record fields => exact congrArg record (modifyField_congr below)

/-- Two changes at one path are one. -/
theorem modifyAt_modifyAt (path : List String) (d : Document) :
    modifyAt f path (modifyAt g path d) = modifyAt (fun v => f (g v)) path d := by
  induction path generalizing d with
  | nil => rfl
  | cons s rest ih =>
    have both : (fun v => modifyAt f rest (modifyAt g rest v)) =
        modifyAt (fun v => f (g v)) rest := funext ih
    cases d with
    | null => rfl
    | bool _ => rfl
    | number _ => rfl
    | text _ => rfl
    | list items =>
      simp only [modifyAt]
      cases signedIndex? s with
      | none => rfl
      | some i =>
        simp only
        rw [List.modify_modify_eq, ← both]
        rfl
    | record fields =>
      simp only [modifyAt, record.injEq]
      rw [modifyField_modifyField, both]

/-- A change that keeps the value keeps the document. -/
theorem modifyAt_id (path : List String) (d : Document) : modifyAt (fun v => v) path d = d := by
  induction path generalizing d with
  | nil => rfl
  | cons s rest ih =>
    have same : modifyAt (fun v => v) rest = fun v => v := funext ih
    cases d with
    | null => rfl
    | bool _ => rfl
    | number _ => rfl
    | text _ => rfl
    | list items =>
      simp only [modifyAt, same]
      cases signedIndex? s with
      | none => rfl
      | some i => exact congrArg list (List.modify_id i items)
    | record fields => simp only [modifyAt, same, modifyField_id]

/-- Changes at one path, one after the other. -/
theorem foldl_modifyAt {α : Type} (change : α → Document → Document) (path : List String)
    (changes : List α) (d : Document) :
    changes.foldl (fun d a => modifyAt (change a) path d) d =
      modifyAt (fun v => changes.foldl (fun v a => change a v) v) path d := by
  induction changes generalizing d with
  | nil => exact (modifyAt_id path d).symm
  | cons a rest ih =>
    rw [List.foldl_cons, ih, modifyAt_modifyAt]
    rfl

/-! ## Distinct names -/

/-- A step down keeps the names distinct. -/
theorem Distinct.child? {index? : String → Option Nat} {s : String} {d e : Document}
    (h : d.Distinct) (he : d.child? index? s = some e) : e.Distinct := by
  cases d with
  | null => cases he
  | bool _ => cases he
  | number _ => cases he
  | text _ => cases he
  | list items =>
    obtain ⟨i, -, item⟩ := Option.bind_eq_some_iff.mp he
    exact distinct_list_iff.mp h e (List.mem_of_getElem? item)
  | record fields =>
    obtain ⟨before, after, rfl, -⟩ := List.lookup_eq_some_iff.mp he
    exact (distinct_record_iff.mp h).2 (s, e) (by simp)

/-- A value inside a document with distinct names has distinct names. -/
theorem Distinct.lookupFrom {path : List String} {d e : Document} (h : d.Distinct)
    (he : d.lookupFrom path = some e) : e.Distinct := by
  induction path generalizing d with
  | nil =>
    cases he
    exact h
  | cons s rest ih =>
    rw [lookupFrom_cons] at he
    obtain ⟨c, child, he⟩ := Option.bind_eq_some_iff.mp he
    exact ih (h.child? child) he

/-! ## Skeletons -/

/-- A step leads to values of one skeleton. -/
theorem child?_skeleton (index? : String → Option Nat) (s : String) (d : Document) :
    d.skeleton.child? index? s = (d.child? index? s).map skeleton := by
  cases d with
  | null => rfl
  | bool _ => rfl
  | number _ => rfl
  | text _ => rfl
  | list items =>
    rw [skeleton_list]
    cases index : index? s with
    | none => simp [child?, index]
    | some i => simp [child?, index]
  | record fields =>
    rw [skeleton_record]
    simp only [child?]
    induction fields with
    | nil => rfl
    | cons e rest ih =>
      rw [List.map_cons, List.lookup_cons, List.lookup_cons]
      cases s == e.1 with
      | true => rfl
      | false => exact ih

/-- A path leads to the skeleton of the value in the skeleton of the document. -/
theorem lookupFrom_skeleton (path : List String) (d : Document) :
    d.skeleton.lookupFrom path = (d.lookupFrom path).map skeleton := by
  induction path generalizing d with
  | nil => rfl
  | cons s rest ih =>
    rw [lookupFrom_cons, lookupFrom_cons, child?_skeleton]
    cases d.child? signedIndex? s with
    | none => rfl
    | some e => exact ih e

/-- A change that keeps the skeleton of a value keeps the skeleton of the whole. -/
theorem skeleton_modifyAt (hf : ∀ v, (f v).skeleton = v.skeleton) (path : List String)
    (d : Document) : (modifyAt f path d).skeleton = d.skeleton := by
  induction path generalizing d with
  | nil => exact hf d
  | cons s rest ih =>
    cases d with
    | null => rfl
    | bool _ => rfl
    | number _ => rfl
    | text _ => rfl
    | list items =>
      simp only [modifyAt]
      cases signedIndex? s with
      | none => rfl
      | some i =>
        rw [skeleton_list, skeleton_list]
        refine congrArg list (List.ext_getElem? fun j => ?_)
        rw [List.getElem?_map, List.getElem?_modify, List.getElem?_map, Option.map_eq_map,
          Option.map_map]
        refine congrArg (fun t => Option.map t items[j]?) (funext fun v => ?_)
        by_cases eq : i = j
        · simp [eq, ih]
        · simp [eq]
    | record fields =>
      simp only [modifyAt]
      rw [skeleton_record, skeleton_record]
      refine congrArg record ?_
      induction fields with
      | nil => rfl
      | cons e rest' ih' =>
        obtain ⟨n, v⟩ := e
        rw [modifyField]
        split
        · rw [List.map_cons, List.map_cons, ih]
        · rw [List.map_cons, List.map_cons, ih']

end SurveyDispatch.Document
