import SurveyDispatch.Proofs.Document.Nesting
import SurveyDispatch.Document.Reader

/-!
# What is read has distinct names

Of the fields of one name the reader keeps one.  So every document that is read has distinct names
in all its records (`Document.distinct_of_read?`), and statements about records may rely on it.
-/

namespace SurveyDispatch.Document

open Ascii

/-! ## Fields with one name -/

/-- Putting a field adds no field but the new one. -/
theorem mem_putField {name : String} {v : Document} {fields : List (String × Document)}
    {f : String × Document} (h : f ∈ putField name v fields) : f = (name, v) ∨ f ∈ fields := by
  induction fields with
  | nil => exact .inl (List.mem_singleton.mp h)
  | cons g gs ih =>
    obtain ⟨n, w⟩ := g
    rw [putField] at h
    split at h
    next eq =>
      subst eq
      exact (List.mem_cons.mp h).imp_right (List.mem_cons_of_mem _)
    next =>
      rcases List.mem_cons.mp h with rfl | mem
      · exact .inr List.mem_cons_self
      · exact (ih mem).imp_right (List.mem_cons_of_mem _)

/-- Putting a field keeps the names distinct, since it takes the place of one with its name. -/
theorem nodup_putField {name : String} {v : Document} {fields : List (String × Document)}
    (h : (fields.map Prod.fst).Nodup) : ((putField name v fields).map Prod.fst).Nodup := by
  induction fields with
  | nil => exact List.nodup_cons.mpr ⟨List.not_mem_nil, List.nodup_nil⟩
  | cons g gs ih =>
    obtain ⟨n, w⟩ := g
    obtain ⟨fresh, nodup⟩ := List.nodup_cons.mp h
    rw [putField]
    split
    next => exact h
    next ne =>
      refine List.nodup_cons.mpr ⟨?_, ih nodup⟩
      intro mem
      obtain ⟨f, mem, same⟩ := List.mem_map.mp mem
      rcases mem_putField mem with rfl | mem
      · exact ne same.symm
      · exact fresh (List.mem_map.mpr ⟨f, mem, same⟩)

/-- The record of fields has distinct names, whatever their names are. -/
theorem distinct_recordOf {fields : List (String × Document)} (h : ∀ f ∈ fields, f.2.Distinct) :
    (recordOf fields).Distinct := by
  suffices ∀ acc : List (String × Document), (record acc).Distinct →
      (record (fields.foldl (fun acc f => putField f.1 f.2 acc) acc)).Distinct from
    this [] (distinct_record_iff.mpr ⟨List.nodup_nil, List.forall_mem_nil _⟩)
  induction fields with
  | nil => exact fun _ distinct => distinct
  | cons f fs ih =>
    intro acc distinct
    obtain ⟨head, tail⟩ := List.forall_mem_cons.mp h
    obtain ⟨nodup, below⟩ := distinct_record_iff.mp distinct
    refine ih tail _ (distinct_record_iff.mpr ⟨nodup_putField nodup, fun g mem => ?_⟩)
    rcases mem_putField mem with rfl | mem
    · exact head
    · exact below g mem

/-! ## Parts of sequences

What holds of everything that a reader of parts gives holds of the parts of a sequence. -/

/-- What holds of every item that is read holds of all items of a list. -/
theorem of_readItems {α : Type} {item : Bytes → Option (α × Bytes)} {P : α → Prop}
    (hitem : ∀ {bytes r}, item bytes = some r → P r.1) {fuel : Nat} {bytes : Bytes}
    {r : List α × Bytes} (h : readItems item fuel bytes = some r) : ∀ x ∈ r.1, P x := by
  induction fuel generalizing bytes r with
  | zero => cases h
  | succ fuel ih =>
    rw [readItems] at h
    obtain ⟨first, read, h⟩ := Option.bind_eq_some_iff.mp h
    dsimp only at h
    split at h
    · obtain ⟨others, later, h⟩ := Option.bind_eq_some_iff.mp h
      cases h
      exact List.forall_mem_cons.mpr ⟨hitem read, ih later⟩
    · cases h
      exact List.forall_mem_singleton.mpr (hitem read)
    · cases h

theorem of_readList {α : Type} {item : Bytes → Option (α × Bytes)} {P : α → Prop}
    (hitem : ∀ {bytes r}, item bytes = some r → P r.1) {bytes : Bytes}
    {r : List α × Bytes} (h : readList item bytes = some r) : ∀ x ∈ r.1, P x := by
  unfold readList at h
  split at h
  · cases h
    exact List.forall_mem_nil _
  · exact of_readItems hitem h

theorem of_readField {α κ : Type} {name : Bytes → Option (κ × Bytes)}
    {item : Bytes → Option (α × Bytes)} {P : α → Prop}
    (hitem : ∀ {bytes r}, item bytes = some r → P r.1) {bytes : Bytes}
    {r : (κ × α) × Bytes} (h : readField name item bytes = some r) : P r.1.2 := by
  unfold readField at h
  split at h
  · obtain ⟨n, -, h⟩ := Option.bind_eq_some_iff.mp h
    dsimp only at h
    split at h
    · obtain ⟨v, read, h⟩ := Option.bind_eq_some_iff.mp h
      cases h
      exact hitem read
    · cases h
  · cases h

/-- What holds of every value that is read holds of the values of all fields. -/
theorem of_readFields {α κ : Type} {name : Bytes → Option (κ × Bytes)}
    {item : Bytes → Option (α × Bytes)} {P : α → Prop}
    (hitem : ∀ {bytes r}, item bytes = some r → P r.1) {fuel : Nat} {bytes : Bytes}
    {r : List (κ × α) × Bytes} (h : readFields name item fuel bytes = some r) :
    ∀ f ∈ r.1, P f.2 := by
  induction fuel generalizing bytes r with
  | zero => cases h
  | succ fuel ih =>
    rw [readFields] at h
    obtain ⟨first, read, h⟩ := Option.bind_eq_some_iff.mp h
    dsimp only at h
    split at h
    · obtain ⟨others, later, h⟩ := Option.bind_eq_some_iff.mp h
      cases h
      exact List.forall_mem_cons.mpr ⟨of_readField hitem read, ih later⟩
    · cases h
      exact List.forall_mem_singleton.mpr (of_readField hitem read)
    · cases h

theorem of_readRecord {α κ : Type} {name : Bytes → Option (κ × Bytes)}
    {item : Bytes → Option (α × Bytes)} {P : α → Prop}
    (hitem : ∀ {bytes r}, item bytes = some r → P r.1) {bytes : Bytes}
    {r : List (κ × α) × Bytes} (h : readRecord name item bytes = some r) : ∀ f ∈ r.1, P f.2 := by
  unfold readRecord at h
  split at h
  · cases h
    exact List.forall_mem_nil _
  · exact of_readFields hitem h

/-! ## Values -/

/-- A scalar has no names. -/
theorem distinct_of_readScalar {bytes : Bytes} {r : Document × Bytes}
    (h : readScalar bytes = some r) : r.1.Distinct := by
  unfold readScalar at h
  split at h
  · cases h
  · split at h
    all_goals
      obtain ⟨_, -, h⟩ := Option.bind_eq_some_iff.mp h
      cases h
      exact trivial

/-- A document that is read has distinct names. -/
theorem distinct_of_readValue {room : Nat} {bytes : Bytes} {r : Document × Bytes}
    (h : readValue room bytes = some r) : r.1.Distinct := by
  induction room generalizing bytes r with
  | zero => exact distinct_of_readScalar h
  | succ room ih =>
    rw [readValue] at h
    dsimp only at h
    split at h
    · obtain ⟨items, read, h⟩ := Option.bind_eq_some_iff.mp h
      cases h
      exact distinct_list_iff.mpr (of_readList ih read)
    · obtain ⟨fields, read, h⟩ := Option.bind_eq_some_iff.mp h
      cases h
      exact distinct_recordOf (of_readRecord ih read)
    · exact distinct_of_readScalar h

/-- Whatever is read has distinct names. -/
theorem distinct_of_read? {bytes : Bytes} {d : Document} (h : read? bytes = some d) :
    d.Distinct := by
  unfold read? readWithin? at h
  obtain ⟨r, read, h⟩ := Option.bind_eq_some_iff.mp h
  dsimp only at h
  split at h
  · cases h
    exact distinct_of_readValue read
  · cases h

end SurveyDispatch.Document
