import SurveyDispatch.Document.Basic

/-!
# Nested documents

A document is a tree, and three things are read off it from the leaves up: how deep it nests, which
numbers it holds, and whether the names in each record are distinct.  Every document that is read
has distinct names (`Document.Distinct`).

`Document.skeleton` leaves out the texts.  Two documents with one skeleton differ in texts only.
They nest equally deep, and a path leads to values of one skeleton in both.

`Document.induct` is the induction that all statements about nested values use: the hypothesis is
about the items of a list and the values of a record.
-/

namespace SurveyDispatch.Document

/-! ## Induction -/

/-- Induction on documents.  The hypothesis is about every item of a list and every value of a
record, each of which is smaller than the whole. -/
@[elab_as_elim, induction_eliminator]
theorem induct {P : Document → Prop} (null : P null) (bool : ∀ b, P (bool b))
    (number : ∀ n, P (number n)) (text : ∀ s, P (text s))
    (list : ∀ items, (∀ x ∈ items, P x) → P (list items))
    (record : ∀ fields, (∀ f ∈ fields, P f.2) → P (record fields)) : ∀ d, P d
  | .null => null
  | .bool b => bool b
  | .number n => number n
  | .text s => text s
  | .list items => list items fun x _ => induct null bool number text list record x
  | .record fields => record fields fun f _ => induct null bool number text list record f.2
termination_by d => sizeOf d
decreasing_by
  · next mem =>
    have smaller := List.sizeOf_lt_of_mem mem
    simp only [Document.list.sizeOf_spec]
    omega
  · next mem =>
    have smaller := List.sizeOf_lt_of_mem mem
    obtain ⟨name, value⟩ := f
    simp only [Document.record.sizeOf_spec, Prod.mk.sizeOf_spec] at smaller ⊢
    omega

/-! ## Depth -/

mutual

/-- How deep lists and records nest. -/
def depth : Document → Nat
  | list items => depthOfItems items + 1
  | record fields => depthOfFields fields + 1
  | _ => 0

/-- How deep the deepest item nests. -/
def depthOfItems : List Document → Nat
  | [] => 0
  | x :: xs => max (depth x) (depthOfItems xs)

/-- How deep the deepest value nests. -/
def depthOfFields : List (String × Document) → Nat
  | [] => 0
  | (_, v) :: rest => max (depth v) (depthOfFields rest)

end

/-- Items nest as deep as the deepest of them. -/
theorem depthOfItems_le_iff {items : List Document} {n : Nat} :
    depthOfItems items ≤ n ↔ ∀ x ∈ items, depth x ≤ n := by
  induction items with
  | nil => simp [depthOfItems]
  | cons x xs ih => simp only [depthOfItems, Nat.max_le, ih, List.forall_mem_cons]

/-- Fields nest as deep as the deepest of their values. -/
theorem depthOfFields_le_iff {fields : List (String × Document)} {n : Nat} :
    depthOfFields fields ≤ n ↔ ∀ f ∈ fields, depth f.2 ≤ n := by
  induction fields with
  | nil => simp [depthOfFields]
  | cons f rest ih => simp only [depthOfFields, Nat.max_le, ih, List.forall_mem_cons]

theorem depth_list_le_iff {items : List Document} {n : Nat} :
    depth (list items) ≤ n + 1 ↔ ∀ x ∈ items, depth x ≤ n := by
  rw [depth, Nat.add_le_add_iff_right, depthOfItems_le_iff]

theorem depth_record_le_iff {fields : List (String × Document)} {n : Nat} :
    depth (record fields) ≤ n + 1 ↔ ∀ f ∈ fields, depth f.2 ≤ n := by
  rw [depth, Nat.add_le_add_iff_right, depthOfFields_le_iff]

/-! ## Numbers -/

mutual

/-- The numbers in a document. -/
def numbers : Document → List Number
  | number n => [n]
  | list items => numbersOfItems items
  | record fields => numbersOfFields fields
  | _ => []

/-- The numbers in items. -/
def numbersOfItems : List Document → List Number
  | [] => []
  | x :: xs => numbers x ++ numbersOfItems xs

/-- The numbers in the values of fields. -/
def numbersOfFields : List (String × Document) → List Number
  | [] => []
  | (_, v) :: rest => numbers v ++ numbersOfFields rest

end

/-- The numbers in a list are those in its items, in order. -/
theorem numbers_list_eq_flatMap (items : List Document) :
    numbers (list items) = items.flatMap numbers := by
  rw [numbers]
  induction items with
  | nil => rfl
  | cons x xs ih => rw [numbersOfItems, ih, List.flatMap_cons]

/-- The numbers in a record are those in its values, in order. -/
theorem numbers_record_eq_flatMap (fields : List (String × Document)) :
    numbers (record fields) = fields.flatMap fun f => numbers f.2 := by
  rw [numbers]
  induction fields with
  | nil => rfl
  | cons f rest ih => rw [numbersOfFields, ih, List.flatMap_cons]

/-! ## Distinct names -/

mutual

/-- The names in each record are distinct. -/
def Distinct : Document → Prop
  | list items => DistinctItems items
  | record fields => (fields.map Prod.fst).Nodup ∧ DistinctFields fields
  | _ => True

/-- The names in the records of each item are distinct. -/
def DistinctItems : List Document → Prop
  | [] => True
  | x :: xs => Distinct x ∧ DistinctItems xs

/-- The names in the records of each value are distinct. -/
def DistinctFields : List (String × Document) → Prop
  | [] => True
  | (_, v) :: rest => Distinct v ∧ DistinctFields rest

end

/-- A list has distinct names if all of its items have. -/
theorem distinct_list_iff {items : List Document} :
    Distinct (list items) ↔ ∀ x ∈ items, Distinct x := by
  rw [Distinct]
  induction items with
  | nil => simp [DistinctItems]
  | cons x xs ih => simp [DistinctItems, ih]

theorem distinctFields_iff {fields : List (String × Document)} :
    DistinctFields fields ↔ ∀ f ∈ fields, Distinct f.2 := by
  induction fields with
  | nil => simp [DistinctFields]
  | cons f rest ih => simp [DistinctFields, ih]

/-- A record has distinct names if its own are distinct and all of its values have. -/
theorem distinct_record_iff {fields : List (String × Document)} :
    Distinct (record fields) ↔
      (fields.map Prod.fst).Nodup ∧ ∀ f ∈ fields, Distinct f.2 := by
  rw [Distinct, distinctFields_iff]

@[simp] theorem distinct_text (s : String) : Distinct (text s) := trivial

/-! ## Skeletons -/

mutual

/-- A document with empty texts in the place of all texts. -/
def skeleton : Document → Document
  | text _ => text ""
  | list items => list (skeletonOfItems items)
  | record fields => record (skeletonOfFields fields)
  | d => d

/-- Items with empty texts. -/
def skeletonOfItems : List Document → List Document
  | [] => []
  | x :: xs => skeleton x :: skeletonOfItems xs

/-- Fields with empty texts as values. -/
def skeletonOfFields : List (String × Document) → List (String × Document)
  | [] => []
  | (name, v) :: rest => (name, skeleton v) :: skeletonOfFields rest

end

theorem skeleton_text (s : String) : skeleton (text s) = text "" := rfl

theorem skeleton_list (items : List Document) :
    skeleton (list items) = list (items.map skeleton) := by
  rw [skeleton]
  induction items with
  | nil => rfl
  | cons x xs ih =>
    rw [skeletonOfItems, list.inj ih, List.map_cons]

theorem skeleton_record (fields : List (String × Document)) :
    skeleton (record fields) = record (fields.map fun f => (f.1, skeleton f.2)) := by
  rw [skeleton]
  induction fields with
  | nil => rfl
  | cons f rest ih =>
    rw [skeletonOfFields, record.inj ih, List.map_cons]

/-- A change that keeps the depth of each item keeps that of the list. -/
theorem depthOfItems_map {f : Document → Document} {items : List Document}
    (h : ∀ x ∈ items, depth (f x) = depth x) : depthOfItems (items.map f) = depthOfItems items := by
  induction items with
  | nil => rfl
  | cons x xs ih =>
    obtain ⟨head, tail⟩ := List.forall_mem_cons.mp h
    rw [List.map_cons, depthOfItems, depthOfItems, head, ih tail]

/-- A change that keeps the depth of each value keeps that of the record. -/
theorem depthOfFields_map {f : Document → Document} {fields : List (String × Document)}
    (h : ∀ g ∈ fields, depth (f g.2) = depth g.2) :
    depthOfFields (fields.map fun g => (g.1, f g.2)) = depthOfFields fields := by
  induction fields with
  | nil => rfl
  | cons g rest ih =>
    obtain ⟨head, tail⟩ := List.forall_mem_cons.mp h
    rw [List.map_cons, depthOfFields, depthOfFields, head, ih tail]

/-- Texts do not nest. -/
theorem depth_skeleton (d : Document) : d.skeleton.depth = d.depth := by
  induction d with
  | null => rfl
  | bool _ => rfl
  | number _ => rfl
  | text _ => rfl
  | list items ih => rw [skeleton_list, depth, depth, depthOfItems_map ih]
  | record fields ih => rw [skeleton_record, depth, depth, depthOfFields_map ih]

/-- Texts have no names. -/
theorem distinct_skeleton {d : Document} : d.skeleton.Distinct ↔ d.Distinct := by
  induction d with
  | null => exact Iff.rfl
  | bool _ => exact Iff.rfl
  | number _ => exact Iff.rfl
  | text _ => exact Iff.rfl
  | list items ih =>
    rw [skeleton_list, distinct_list_iff, distinct_list_iff, List.forall_mem_map]
    exact forall₂_congr ih
  | record fields ih =>
    have names : (fields.map fun f => (f.1, skeleton f.2)).map Prod.fst = fields.map Prod.fst := by
      rw [List.map_map]
      rfl
    rw [skeleton_record, distinct_record_iff, distinct_record_iff, names, List.forall_mem_map]
    exact and_congr_right fun _ => forall₂_congr ih

end SurveyDispatch.Document
