import SurveyDispatch.Store.Memory

/-!
# Stores that only grow

Syncing puts objects into the store that it reads from.  A store is *kept in* a later one if the
later one has every object of it with the same bytes.  An object under a new key keeps the store
(`MemoryStore.keptIn_set`), so a store is kept as long as no object of it is replaced.

Objects may be put under a new key more than once.  Then the last bytes count.
-/

namespace SurveyDispatch

namespace Dictionary

variable {α : Type} {d : Dictionary α} {key : String}

theorem contains_eq_true_iff : d.contains key = true ↔ ∃ value, d.get? key = some value :=
  Option.isSome_iff_exists

theorem contains_eq_false_iff : d.contains key = false ↔ d.get? key = none :=
  Option.isSome_eq_false_iff.trans Option.isNone_iff_eq_none

theorem lookup_eq_some_iff {value : α} : ∀ {entries : List (String × α)}, Ascending entries →
    ((key, value) ∈ entries ↔ entries.lookup key = some value)
  | [], _ => by simp
  | (k, v) :: rest, h => by
    obtain ⟨above, tail⟩ := List.pairwise_cons.mp h
    rw [List.mem_cons, List.lookup_cons, lookup_eq_some_iff tail]
    by_cases same : key = k
    · subst same
      -- The key is not found again behind its entry, because keys ascend strictly.
      have fresh : rest.lookup key ≠ some value := by
        intro found
        have mem := (lookup_eq_some_iff tail).mpr found
        exact String.lt_irrefl key (above _ mem)
      simp [fresh, eq_comm]
    · have other : (key == k) = false := beq_eq_false_iff_ne.mpr same
      simp [same, other]

/-- The entries of a dictionary are its keys with their values. -/
theorem mem_entries_iff {value : α} : (key, value) ∈ d.entries ↔ d.get? key = some value :=
  lookup_eq_some_iff d.ascending

end Dictionary

namespace MemoryStore

variable {s t u : MemoryStore} {key other : String} {bytes : Bytes}

theorem get_eq_ok_iff : ObjectStore.get s key = .ok bytes ↔ s.objects.get? key = some bytes := by
  show MemoryStore.get s key = .ok bytes ↔ _
  rw [get]
  cases s.objects.get? key <;> simp

/-- The store with some bytes under a key. -/
def set (s : MemoryStore) (key : String) (bytes : Bytes) : MemoryStore :=
  ⟨s.objects.insert key bytes⟩

theorem get?_set :
    (s.set key bytes).objects.get? other =
      if other = key then some bytes else s.objects.get? other :=
  s.objects.get?_insert key other bytes

theorem get?_set_self : (s.set key bytes).objects.get? key = some bytes := by
  rw [get?_set, if_pos rfl]

theorem get?_set_of_ne (h : key ≠ other) :
    (s.set key bytes).objects.get? other = s.objects.get? other := by
  rw [get?_set, if_neg (Ne.symm h)]

/-- Every key but the empty one can be put. -/
theorem put_eq_set (h : key ≠ "") : s.put key bytes = (.ok (), s.set key bytes) := by
  have named : ¬ key.isEmpty = true := by simpa using h
  rw [put, if_neg named, set]

/-! ## Stores in later stores -/

/-- Every object of the store is in the later one with the same bytes. -/
def KeptIn (s t : MemoryStore) : Prop :=
  ∀ key bytes, s.objects.get? key = some bytes → t.objects.get? key = some bytes

namespace KeptIn

theorem refl (s : MemoryStore) : s.KeptIn s := fun _ _ found => found

theorem trans (h : s.KeptIn t) (h' : t.KeptIn u) : s.KeptIn u :=
  fun key bytes found => h' key bytes (h key bytes found)

theorem contains (h : s.KeptIn t) (held : s.objects.contains key = true) :
    t.objects.contains key = true := by
  obtain ⟨bytes, found⟩ := Dictionary.contains_eq_true_iff.mp held
  exact Dictionary.contains_eq_true_iff.mpr ⟨bytes, h key bytes found⟩

theorem contains_eq_false (h : s.KeptIn t) (absent : t.objects.contains key = false) :
    s.objects.contains key = false := by
  cases held : s.objects.contains key with
  | false => rfl
  | true => exact absurd (h.contains held) (by rw [absent]; exact Bool.false_ne_true)

theorem get?_eq (h : s.KeptIn t) (held : s.objects.contains key = true) :
    t.objects.get? key = s.objects.get? key := by
  obtain ⟨bytes, found⟩ := Dictionary.contains_eq_true_iff.mp held
  rw [found, h key bytes found]

end KeptIn

/-- A store is kept if it has no object of the key that is put. -/
theorem keptIn_set (h : s.KeptIn t) (absent : s.objects.contains key = false) :
    s.KeptIn (t.set key bytes) := by
  intro other found same
  have differ : key ≠ other := by
    rintro rfl
    rw [Dictionary.contains_eq_false_iff.mp absent] at same
    cases same
  rw [get?_set_of_ne differ]
  exact h other found same

end MemoryStore

end SurveyDispatch
