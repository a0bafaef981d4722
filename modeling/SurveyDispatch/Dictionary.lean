/-!
# Dictionaries

A dictionary holds one value per key.  Its entries ascend strictly by key, and texts ascend by
their characters, which is also the order of their bytes.

`lookup_insertEntry` says what an insertion does: it sets the value of its key and of no other.
-/

namespace SurveyDispatch

/-- The keys of entries ascend strictly. -/
def Ascending {α : Type} (entries : List (String × α)) : Prop :=
  entries.Pairwise fun e f => e.1 < f.1

/-- Puts an entry in its place, instead of one with the same key. -/
def insertEntry {α : Type} (key : String) (value : α) : List (String × α) → List (String × α)
  | [] => [(key, value)]
  | (k, v) :: rest =>
    if key < k then (key, value) :: (k, v) :: rest
    else if key = k then (key, value) :: rest
    else (k, v) :: insertEntry key value rest

section

variable {α : Type} {key : String} {value : α} {entries : List (String × α)}

/-- Inserting adds no entry but the new one. -/
theorem mem_insertEntry {e : String × α} (h : e ∈ insertEntry key value entries) :
    e = (key, value) ∨ e ∈ entries := by
  induction entries with
  | nil => simpa [insertEntry] using h
  | cons head rest ih =>
    grind [insertEntry]

/-- Inserting keeps the keys in ascending order. -/
theorem ascending_insertEntry (h : Ascending entries) :
    Ascending (insertEntry key value entries) := by
  induction entries with
  | nil => simp [insertEntry, Ascending]
  | cons head rest ih =>
    obtain ⟨k, v⟩ := head
    obtain ⟨above, tail⟩ := List.pairwise_cons.1 h
    simp only [insertEntry]
    split
    · rename_i lt
      refine List.pairwise_cons.2 ⟨fun f mem => ?_, h⟩
      rcases List.mem_cons.1 mem with rfl | mem
      · exact lt
      · exact String.lt_trans lt (above f mem)
    · rename_i notLt
      split
      · rename_i eq
        exact List.pairwise_cons.2 ⟨fun f mem => eq ▸ above f mem, tail⟩
      · rename_i ne
        refine List.pairwise_cons.2 ⟨fun f mem => ?_, ih tail⟩
        rcases mem_insertEntry mem with rfl | mem
        · exact Std.lt_of_le_of_ne (String.not_lt.1 notLt) (Ne.symm ne)
        · exact above f mem

/-- After inserting, the key has the new value and every other key the one it had. -/
theorem lookup_insertEntry (other : String) :
    (insertEntry key value entries).lookup other =
      if other = key then some value else entries.lookup other := by
  induction entries with
  | nil => simp only [insertEntry, List.lookup_cons, List.lookup_nil]; grind
  | cons head rest ih =>
    obtain ⟨k, v⟩ := head
    simp only [insertEntry]
    split
    · simp only [List.lookup_cons]; grind
    · split
      · simp only [List.lookup_cons]; grind
      · simp only [List.lookup_cons, ih]; grind

/-- A key above all others goes to the end. -/
theorem insertEntry_of_lt (h : ∀ e ∈ entries, e.1 < key) :
    insertEntry key value entries = entries ++ [(key, value)] := by
  induction entries with
  | nil => rfl
  | cons head rest ih =>
    obtain ⟨k, v⟩ := head
    obtain ⟨lt, others⟩ := List.forall_mem_cons.1 h
    have ne : key ≠ k := by
      rintro rfl
      exact String.lt_irrefl key lt
    rw [insertEntry, if_neg (String.lt_asymm lt), if_neg ne, ih others, List.cons_append]

end

/-- Values by key. -/
structure Dictionary (α : Type) where
  /-- The entries. -/
  entries : List (String × α)
  /-- The entries ascend strictly by key. -/
  ascending : Ascending entries

namespace Dictionary

variable {α : Type}

/-- No entries. -/
def empty : Dictionary α := ⟨[], List.Pairwise.nil⟩

/-- Sets the value of a key. -/
def insert (d : Dictionary α) (key : String) (value : α) : Dictionary α :=
  ⟨insertEntry key value d.entries, ascending_insertEntry d.ascending⟩

/-- The value of a key. -/
def get? (d : Dictionary α) (key : String) : Option α := d.entries.lookup key

/-- Whether a key has a value. -/
def contains (d : Dictionary α) (key : String) : Bool := (d.get? key).isSome

/-- Adds entries one after the other, so that the last one of a key counts. -/
def insertAll (d : Dictionary α) (entries : List (String × α)) : Dictionary α :=
  entries.foldl (fun d e => d.insert e.1 e.2) d

/-- The dictionary of entries, of which the last one of a key counts. -/
def ofList (entries : List (String × α)) : Dictionary α := empty.insertAll entries

@[ext] theorem ext {d e : Dictionary α} (h : d.entries = e.entries) : d = e := by
  cases d; cases e; cases h; rfl

@[simp] theorem get?_empty (key : String) : (empty : Dictionary α).get? key = none := rfl

theorem get?_insert (d : Dictionary α) (key other : String) (value : α) :
    (d.insert key value).get? other = if other = key then some value else d.get? other :=
  lookup_insertEntry other

/-- Entries that ascend above those of a dictionary are added behind them as they are. -/
theorem entries_insertAll {entries : List (String × α)} {d : Dictionary α}
    (h : Ascending (d.entries ++ entries)) :
    (d.insertAll entries).entries = d.entries ++ entries := by
  induction entries generalizing d with
  | nil => exact (List.append_nil _).symm
  | cons e rest ih =>
    have last : (d.insert e.1 e.2).entries = d.entries ++ [e] :=
      insertEntry_of_lt fun f mem => (List.pairwise_append.1 h).2.2 f mem e List.mem_cons_self
    have split : d.entries ++ e :: rest = (d.insert e.1 e.2).entries ++ rest := by
      rw [last, List.append_assoc, List.singleton_append]
    rw [split] at h ⊢
    exact ih h

/-- A dictionary is that of its entries. -/
theorem ofList_entries (d : Dictionary α) : ofList d.entries = d :=
  ext (entries_insertAll d.ascending)

example : (ofList [("b", 1), ("a", 2), ("b", 3)]).entries = [("a", 2), ("b", 3)] := by decide

end Dictionary

end SurveyDispatch
