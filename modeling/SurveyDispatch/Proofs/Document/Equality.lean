import Mathlib.Data.List.Forall2
import Mathlib.Data.List.Perm.Subperm
import SurveyDispatch.Proofs.Document.Places

/-!
# Equality of documents

Two records are compared by the number of their fields and by looking up every name of the first in
the second.  Where the names are distinct, no name is left over in the second record, since the two
have equally many.  So the records are equal exactly when they give equal values for every name
(`Document.equal_record_iff`), which does not depend on the order of fields.  In this form equality
is reflexive, symmetric and transitive.

`Document.Reordered` says that one document is another one with the fields of some records, at any
depth, in another order.
-/

namespace SurveyDispatch

/-- What numbers inside a document are compared by. -/
def Number.exact : Number → Int ⊕ Int
  | integer i _ => .inl i
  | float x => .inr x.units

namespace Document

/-- Numbers are equal if they denote the same rational number. -/
theorem equalNumber_iff {m n : Number} : equalNumber m n = true ↔ m.exact = n.exact := by
  cases m with
  | integer i _ =>
    cases n with
    | integer j _ => rw [equalNumber, beq_iff_eq, Number.exact, Number.exact, Sum.inl.injEq]
    | float y => exact ⟨nofun, nofun⟩
  | float x =>
    cases n with
    | integer j _ => exact ⟨nofun, nofun⟩
    | float y => rw [equalNumber, beq_iff_eq, Number.exact, Number.exact, Sum.inr.injEq]

/-! ## What a value equals

A value equals values of its own kind only. -/

variable {d : Document}

theorem null_equal_iff : equal null d = true ↔ null = d := by
  cases d with
  | null => exact ⟨fun _ => rfl, fun _ => rfl⟩
  | _ => exact ⟨nofun, nofun⟩

theorem bool_equal_iff {b : Bool} : equal (bool b) d = true ↔ bool b = d := by
  cases d with
  | bool c => exact beq_iff_eq.trans (Iff.of_eq (bool.injEq b c).symm)
  | _ => exact ⟨nofun, nofun⟩

/-- A number equals the numbers that denote the same rational number. -/
theorem number_equal_iff {m : Number} :
    equal (number m) d = true ↔ ∃ n, d = number n ∧ m.exact = n.exact := by
  cases d with
  | number n =>
    refine equalNumber_iff.trans ⟨fun same => ⟨n, rfl, same⟩, ?_⟩
    rintro ⟨_, ⟨⟩, same⟩
    exact same
  | _ =>
    constructor
    · intro same
      cases same
    · rintro ⟨_, ⟨⟩, _⟩

theorem text_equal_iff {s : String} : equal (text s) d = true ↔ text s = d := by
  cases d with
  | text t => exact beq_iff_eq.trans (Iff.of_eq (text.injEq s t).symm)
  | _ => exact ⟨nofun, nofun⟩

/-- Lists are equal place by place. -/
theorem equalItems_iff {xs ys : List Document} :
    equalItems xs ys = true ↔ xs.length = ys.length ∧
      ∀ (i : Nat) (x y : Document), xs[i]? = some x → ys[i]? = some y → equal x y = true := by
  induction xs generalizing ys with
  | nil => cases ys <;> simp [equalItems]
  | cons x xs ih =>
    cases ys with
    | nil => simp [equalItems]
    | cons y ys =>
      rw [equalItems, Bool.and_eq_true, ih, List.length_cons, List.length_cons,
        Nat.add_right_cancel_iff]
      constructor
      · rintro ⟨head, length, tail⟩
        refine ⟨length, fun i => ?_⟩
        cases i with
        | zero =>
          rintro _ _ ⟨⟩ ⟨⟩
          exact head
        | succ i => exact tail i
      · rintro ⟨length, same⟩
        exact ⟨same 0 x y rfl rfl, length, fun i => same (i + 1)⟩

/-- A list equals the lists of the same length with equal items at each place. -/
theorem list_equal_iff {xs : List Document} :
    equal (list xs) d = true ↔ ∃ ys, d = list ys ∧ xs.length = ys.length ∧
      ∀ (i : Nat) (x y : Document), xs[i]? = some x → ys[i]? = some y → equal x y = true := by
  cases d <;> simp [equal, equalItems_iff]

/-- The fields of one record are equal to those of another if each has an equal value there. -/
theorem equalFields_iff {fs gs : List (String × Document)} :
    equalFields fs gs = true ↔ ∀ f ∈ fs, ∃ w, gs.lookup f.1 = some w ∧ equal f.2 w = true := by
  induction fs with
  | nil => simp [equalFields]
  | cons f fs ih =>
    obtain ⟨name, v⟩ := f
    rw [equalFields, Bool.and_eq_true, ih, List.forall_mem_cons]
    cases gs.lookup name with
    | none => simp
    | some w => simp

/-- Two lists of distinct names of which the first is part of the second and not shorter hold the
same names. -/
theorem subset_of_length_eq {names others : List String} (nodup : names.Nodup)
    (subset : names ⊆ others) (length : names.length = others.length) : others ⊆ names :=
  ((List.subperm_of_subset nodup subset).perm_of_length_le (Nat.le_of_eq length.symm)).symm.subset

/-- With distinct names there is one value for each name. -/
theorem value_unique {fields : List (String × Document)} (nodup : (fields.map Prod.fst).Nodup)
    {name : String} {v w : Document} (left : (name, v) ∈ fields) (right : (name, w) ∈ fields) :
    v = w := by
  rw [← lookup_eq_some_iff_mem nodup] at left right
  exact Option.some.inj (left.symm.trans right)

/-- A record equals the records with the same names and an equal value for each. -/
theorem record_equal_iff {fs : List (String × Document)} (distinct : (record fs).Distinct)
    (distinct' : d.Distinct) :
    equal (record fs) d = true ↔
      ∃ gs, d = record gs ∧ (∀ name, name ∈ fs.map Prod.fst ↔ name ∈ gs.map Prod.fst) ∧
        ∀ name v w, (name, v) ∈ fs → (name, w) ∈ gs → equal v w = true := by
  have nodup := (distinct_record_iff.mp distinct).1
  constructor
  · intro h
    cases d with
    | record gs =>
      have nodup' := (distinct_record_iff.mp distinct').1
      rw [equal, Bool.and_eq_true, beq_iff_eq, equalFields_iff] at h
      obtain ⟨length, found⟩ := h
      have subset : fs.map Prod.fst ⊆ gs.map Prod.fst := by
        intro name mem
        obtain ⟨f, field, rfl⟩ := List.mem_map.mp mem
        obtain ⟨w, right, -⟩ := found f field
        exact List.mem_map.mpr ⟨_, mem_of_lookup right, rfl⟩
      have superset := subset_of_length_eq nodup subset (by simpa using length)
      refine ⟨gs, rfl, fun name => ⟨fun mem => subset mem, fun mem => superset mem⟩, ?_⟩
      intro name v w left right
      obtain ⟨w', found, same⟩ := found (name, v) left
      rw [value_unique nodup' right (mem_of_lookup found)]
      exact same
    | _ => simp [equal] at h
  · rintro ⟨gs, rfl, names, same⟩
    have nodup' := (distinct_record_iff.mp distinct').1
    have perm : (fs.map Prod.fst).Perm (gs.map Prod.fst) :=
      (List.perm_ext_iff_of_nodup nodup nodup').mpr names
    rw [equal, Bool.and_eq_true, beq_iff_eq, equalFields_iff]
    refine ⟨by simpa using perm.length_eq, fun f mem => ?_⟩
    obtain ⟨g, right, eq⟩ := List.mem_map.mp ((names f.1).mp (List.mem_map_of_mem mem))
    have right : (f.1, g.2) ∈ gs := eq ▸ right
    exact ⟨g.2, (lookup_eq_some_iff_mem nodup').mpr right, same f.1 f.2 g.2 mem right⟩

/-! ## An equivalence -/

/-- A document with distinct names equals itself. -/
theorem equal_refl (h : d.Distinct) : equal d d = true := by
  induction d with
  | null => exact null_equal_iff.mpr rfl
  | bool b => exact bool_equal_iff.mpr rfl
  | number n => exact number_equal_iff.mpr ⟨n, rfl, rfl⟩
  | text s => exact text_equal_iff.mpr rfl
  | list items ih =>
    have below := distinct_list_iff.mp h
    refine list_equal_iff.mpr ⟨items, rfl, rfl, fun i x y left right => ?_⟩
    cases left.symm.trans right
    have mem := List.mem_of_getElem? left
    exact ih x mem (below x mem)
  | record fields ih =>
    obtain ⟨nodup, below⟩ := distinct_record_iff.mp h
    refine (record_equal_iff h h).mpr ⟨fields, rfl, fun _ => Iff.rfl, ?_⟩
    intro name v w left right
    obtain rfl := value_unique nodup left right
    exact ih _ left (below _ left)

/-- Equality of documents with distinct names is symmetric. -/
theorem equal_symm {e : Document} (hd : d.Distinct) (he : e.Distinct) (h : equal d e = true) :
    equal e d = true := by
  induction d generalizing e with
  | null => exact null_equal_iff.mp h ▸ h
  | bool b => exact bool_equal_iff.mp h ▸ h
  | number n =>
    obtain ⟨m, rfl, same⟩ := number_equal_iff.mp h
    exact number_equal_iff.mpr ⟨n, rfl, same.symm⟩
  | text s => exact text_equal_iff.mp h ▸ h
  | list items ih =>
    obtain ⟨others, rfl, length, same⟩ := list_equal_iff.mp h
    refine list_equal_iff.mpr ⟨items, rfl, length.symm, fun i y x right left => ?_⟩
    have mem := List.mem_of_getElem? left
    have mem' := List.mem_of_getElem? right
    exact ih x mem (distinct_list_iff.mp hd x mem) (distinct_list_iff.mp he y mem')
      (same i x y left right)
  | record fields ih =>
    obtain ⟨others, rfl, names, same⟩ := (record_equal_iff hd he).mp h
    have left := (distinct_record_iff.mp hd).2
    have right := (distinct_record_iff.mp he).2
    refine (record_equal_iff he hd).mpr ⟨fields, rfl, fun name => (names name).symm, ?_⟩
    intro name v w mem mem'
    exact ih _ mem' (left _ mem') (right _ mem) (same name w v mem' mem)

/-- Equality of documents with distinct names is transitive. -/
theorem equal_trans {e f : Document} (hd : d.Distinct) (he : e.Distinct) (hf : f.Distinct)
    (h : equal d e = true) (h' : equal e f = true) : equal d f = true := by
  induction d generalizing e f with
  | null => exact null_equal_iff.mp h ▸ h'
  | bool b => exact bool_equal_iff.mp h ▸ h'
  | number n =>
    obtain ⟨m, rfl, same⟩ := number_equal_iff.mp h
    obtain ⟨k, rfl, same'⟩ := number_equal_iff.mp h'
    exact number_equal_iff.mpr ⟨k, rfl, same.trans same'⟩
  | text s => exact text_equal_iff.mp h ▸ h'
  | list items ih =>
    obtain ⟨others, rfl, length, same⟩ := list_equal_iff.mp h
    obtain ⟨more, rfl, length', same'⟩ := list_equal_iff.mp h'
    refine list_equal_iff.mpr ⟨more, rfl, length.trans length', fun i x z left right => ?_⟩
    -- The list between has an item at this place, since it is as long.
    obtain ⟨y, between⟩ : ∃ y, others[i]? = some y := by
      have inside := (List.getElem?_eq_some_iff.mp left).1
      exact ⟨_, List.getElem?_eq_getElem (length ▸ inside)⟩
    have mem := List.mem_of_getElem? left
    have mem' := List.mem_of_getElem? between
    have mem'' := List.mem_of_getElem? right
    exact ih x mem (distinct_list_iff.mp hd x mem) (distinct_list_iff.mp he y mem')
      (distinct_list_iff.mp hf z mem'') (same i x y left between) (same' i y z between right)
  | record fields ih =>
    obtain ⟨others, rfl, names, same⟩ := (record_equal_iff hd he).mp h
    obtain ⟨more, rfl, names', same'⟩ := (record_equal_iff he hf).mp h'
    refine (record_equal_iff hd hf).mpr
      ⟨more, rfl, fun name => (names name).trans (names' name), ?_⟩
    intro name v w mem mem'
    obtain ⟨⟨_, u⟩, between, rfl⟩ := List.mem_map.mp ((names name).mp (List.mem_map_of_mem mem))
    have left := (distinct_record_iff.mp hd).2 _ mem
    have middle := (distinct_record_iff.mp he).2 _ between
    have right := (distinct_record_iff.mp hf).2 _ mem'
    exact ih _ mem left middle right (same _ v u mem between) (same' _ u w between mem')

/-! ## Fields in another order -/

/-- One document is another one with the fields of some records, at any depth, in another order. -/
inductive Reordered : Document → Document → Prop where
  /-- Nothing is in another order. -/
  | refl (d : Document) : Reordered d d
  /-- The fields of the record itself. -/
  | fields {fs gs : List (String × Document)} : fs.Perm gs → Reordered (record fs) (record gs)
  /-- Inside an item of a list. -/
  | item {front rest : List Document} {x y : Document} :
      Reordered x y → Reordered (list (front ++ x :: rest)) (list (front ++ y :: rest))
  /-- Inside a value of a record. -/
  | value {front rest : List (String × Document)} {name : String} {v w : Document} :
      Reordered v w →
      Reordered (record (front ++ (name, v) :: rest)) (record (front ++ (name, w) :: rest))
  /-- One after the other. -/
  | trans {d e f : Document} : Reordered d e → Reordered e f → Reordered d f

/-- An item may give way to an equal one. -/
theorem distinct_equal_item {front rest : List Document} {x y : Document}
    (h : (list (front ++ x :: rest)).Distinct) (hy : y.Distinct) (same : equal x y = true) :
    (list (front ++ y :: rest)).Distinct ∧
      equal (list (front ++ x :: rest)) (list (front ++ y :: rest)) = true := by
  rw [distinct_list_iff, List.forall_mem_append, List.forall_mem_cons] at h
  obtain ⟨before, -, after⟩ := h
  refine ⟨?_, ?_⟩
  · rw [distinct_list_iff, List.forall_mem_append, List.forall_mem_cons]
    exact ⟨before, hy, after⟩
  · rw [equal]
    induction front with
    | nil =>
      have behind : equalItems rest rest = true := equal_refl (distinct_list_iff.mpr after)
      rw [List.nil_append, List.nil_append, equalItems, same, behind]
      rfl
    | cons z front ih =>
      obtain ⟨head, before⟩ := List.forall_mem_cons.mp before
      rw [List.cons_append, List.cons_append, equalItems, equal_refl head, ih before]
      rfl

/-- A value of a record may give way to an equal one. -/
theorem distinct_equal_value {front rest : List (String × Document)} {name : String}
    {v w : Document} (h : (record (front ++ (name, v) :: rest)).Distinct) (hw : w.Distinct)
    (same : equal v w = true) :
    (record (front ++ (name, w) :: rest)).Distinct ∧
      equal (record (front ++ (name, v) :: rest)) (record (front ++ (name, w) :: rest)) = true := by
  obtain ⟨nodup, below⟩ := distinct_record_iff.mp h
  have names : (front ++ (name, w) :: rest).map Prod.fst =
      (front ++ (name, v) :: rest).map Prod.fst := by
    rw [List.map_append, List.map_append, List.map_cons, List.map_cons]
  have elsewhere : ∀ {other : String} {u : Document}, other ≠ name →
      (other, u) ∈ front ++ (name, w) :: rest → (other, u) ∈ front ++ (name, v) :: rest := by
    intro other u ne mem
    simpa [ne] using mem
  have distinct : (record (front ++ (name, w) :: rest)).Distinct := by
    refine distinct_record_iff.mpr ⟨names ▸ nodup, fun f mem => ?_⟩
    rcases List.mem_append.mp mem with mem | mem
    · exact below f (List.mem_append_left _ mem)
    · rcases List.mem_cons.mp mem with rfl | mem
      · exact hw
      · exact below f (List.mem_append_right _ (List.mem_cons_of_mem _ mem))
  refine ⟨distinct, (record_equal_iff h distinct).mpr ⟨_, rfl, fun _ => names ▸ Iff.rfl, ?_⟩⟩
  intro other u u' left right
  by_cases own : other = name
  · subst own
    obtain rfl := value_unique nodup left (List.mem_append_right _ List.mem_cons_self)
    obtain rfl := value_unique (distinct_record_iff.mp distinct).1 right
      (List.mem_append_right _ List.mem_cons_self)
    exact same
  · obtain rfl := value_unique nodup left (elsewhere own right)
    exact equal_refl (below _ left)

/-- The order of fields counts neither for distinct names nor for equality. -/
theorem Reordered.distinct_equal {e : Document} (h : Reordered d e) (hd : d.Distinct) :
    e.Distinct ∧ equal d e = true := by
  induction h with
  | refl d => exact ⟨hd, equal_refl hd⟩
  | @fields fs gs perm =>
    obtain ⟨nodup, below⟩ := distinct_record_iff.mp hd
    have distinct : (record gs).Distinct := distinct_record_iff.mpr
      ⟨(perm.map Prod.fst).nodup_iff.mp nodup, fun f mem => below f (perm.mem_iff.mpr mem)⟩
    refine ⟨distinct, (record_equal_iff hd distinct).mpr
      ⟨gs, rfl, fun _ => (perm.map Prod.fst).mem_iff, fun name v w left right => ?_⟩⟩
    obtain rfl := value_unique nodup left (perm.mem_iff.mpr right)
    exact equal_refl (below _ left)
  | item _ ih =>
    have below := distinct_list_iff.mp hd
    obtain ⟨hy, same⟩ := ih (below _ (List.mem_append_right _ List.mem_cons_self))
    exact distinct_equal_item hd hy same
  | value _ ih =>
    have below := (distinct_record_iff.mp hd).2
    obtain ⟨hw, same⟩ := ih (below _ (List.mem_append_right _ List.mem_cons_self))
    exact distinct_equal_value hd hw same
  | trans _ _ ih ih' =>
    obtain ⟨he, same⟩ := ih hd
    obtain ⟨hf, same'⟩ := ih' he
    exact ⟨hf, equal_trans hd he hf same same'⟩

end Document

end SurveyDispatch
