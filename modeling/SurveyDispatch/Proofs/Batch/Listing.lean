import Mathlib.Data.List.Sort
import SurveyDispatch.Dispatch.Listing
import SurveyDispatch.Proofs.Store.Scanning

/-!
# Listed keys

A listing is read off a dictionary, so its keys ascend strictly and no key is listed twice.  A store
in memory never fails to list.  It lists the keys that are selected by an entry prefix and a suffix
and have bytes (`mem_listSubmissions_iff`).  So a listing depends on the selected keys only
(`listSubmissions_eq_of_keptIn`).

`listSubmissions_selects` says the same in terms of bytes: one ascending list, whatever the suffix
stands for.
-/

namespace SurveyDispatch

section

variable {σ : Type} [ObjectStore σ] {store : σ} {entryPrefix suffix : String} {keys : List String}

/-- Listed keys are those of a dictionary. -/
theorem listSubmissions_eq_ok (h : listSubmissions store entryPrefix suffix = .ok keys) :
    ∃ d, collectKeys store entryPrefix (expandRanges suffix) .empty = .ok d ∧
      keys = d.entries.map (·.1) := by
  unfold listSubmissions at h
  cases hd : collectKeys store entryPrefix (expandRanges suffix) .empty with
  | error fault =>
    rw [hd] at h
    cases h
  | ok d =>
    rw [hd] at h
    cases h
    exact ⟨d, rfl, rfl⟩

/-- Listed keys ascend strictly. -/
theorem ascending_listSubmissions (h : listSubmissions store entryPrefix suffix = .ok keys) :
    keys.Pairwise (· < ·) := by
  obtain ⟨d, -, rfl⟩ := listSubmissions_eq_ok h
  exact List.pairwise_map.mpr d.ascending

/-- No key is listed twice. -/
theorem nodup_listSubmissions (h : listSubmissions store entryPrefix suffix = .ok keys) :
    keys.Nodup := by
  refine (ascending_listSubmissions h).imp ?_
  rintro key _ lt rfl
  exact String.lt_irrefl key lt

end

/-! ## Stores in memory -/

/-- Collecting keys never fails in a memory store. -/
theorem collectKeys_memory (store : MemoryStore) (entryPrefix : String) :
    ∀ (expansions : List String) (keys : Dictionary Unit),
      ∃ d, collectKeys store entryPrefix expansions keys = .ok d
  | [], keys => ⟨keys, rfl⟩
  | _ :: rest, _ => collectKeys_memory store entryPrefix rest _

/-- A store in memory lists its submissions. -/
theorem listSubmissions_memory (store : MemoryStore) (entryPrefix suffix : String) :
    ∃ keys, listSubmissions store entryPrefix suffix = .ok keys := by
  obtain ⟨d, hd⟩ := collectKeys_memory store entryPrefix (expandRanges suffix) .empty
  refine ⟨d.entries.map (·.1), ?_⟩
  unfold listSubmissions
  rw [hd]
  rfl

/-- A key starts with an entry prefix followed by one of the texts that a suffix stands for. -/
def Selected (entryPrefix suffix key : String) : Prop :=
  ∃ expansion ∈ expandRanges suffix, Text.startsWith key (entryPrefix ++ expansion) = true

instance (entryPrefix suffix key : String) : Decidable (Selected entryPrefix suffix key) :=
  inferInstanceAs (Decidable (∃ expansion ∈ expandRanges suffix, _))

/-- The keys of the objects are added, but not those of placeholders. -/
theorem get?_addKeys {key : String} : ∀ (objects : List ObjectMeta) (keys : Dictionary Unit),
    (addKeys keys objects).get? key = some () ↔
      keys.get? key = some () ∨ ∃ o ∈ objects, o.isPlaceholder = false ∧ o.key = key
  | [], keys => by simp [addKeys]
  | o :: rest, keys => by
    have step : addKeys keys (o :: rest) =
      addKeys (if o.isPlaceholder then keys else keys.insert o.key ()) rest := rfl
    rw [step, get?_addKeys rest]
    cases empty : o.isPlaceholder with
    | true => simp [empty]
    | false =>
      simp only [Bool.false_eq_true, if_false, Dictionary.get?_insert, List.exists_mem_cons_iff,
        empty, true_and]
      by_cases same : o.key = key
      · simp [same]
      · simp [same, Ne.symm same]

/-- The keys that are collected hold something and start with one of the expansions. -/
theorem get?_collectKeys {store : MemoryStore} {entryPrefix key : String} :
    ∀ {expansions : List String} {keys d : Dictionary Unit},
      collectKeys store entryPrefix expansions keys = .ok d →
      (d.get? key = some () ↔ keys.get? key = some () ∨
        (∃ expansion ∈ expansions, Text.startsWith key (entryPrefix ++ expansion) = true) ∧
          ∃ bytes, store.objects.get? key = some bytes ∧ bytes ≠ [])
  | [], keys, d, h => by
    cases h
    simp
  | expansion :: rest, keys, d, h => by
    have others : collectKeys store entryPrefix rest
        (addKeys keys (store.list (entryPrefix ++ expansion))) = .ok d := h
    rw [get?_collectKeys others, get?_addKeys, List.exists_mem_cons_iff, or_assoc, or_and_right]
    refine or_congr_right (or_congr_left ?_)
    constructor
    · rintro ⟨o, listed, full, rfl⟩
      obtain ⟨starts, bytes, found, size⟩ := MemoryStore.mem_list_iff.mp listed
      refine ⟨starts, bytes, found, ?_⟩
      rintro rfl
      simp [ObjectMeta.isPlaceholder, size] at full
    · rintro ⟨starts, bytes, found, full⟩
      refine ⟨⟨key, bytes.length⟩, MemoryStore.mem_list_iff.mpr ⟨starts, bytes, found, rfl⟩, ?_,
        rfl⟩
      simpa [ObjectMeta.isPlaceholder] using full

section

variable {store later : MemoryStore} {entryPrefix suffix : String} {keys : List String}

/-- The listed keys are the selected ones that have bytes. -/
theorem mem_listSubmissions_iff (h : listSubmissions store entryPrefix suffix = .ok keys)
    {key : String} :
    key ∈ keys ↔ Selected entryPrefix suffix key ∧
      ∃ bytes, store.objects.get? key = some bytes ∧ bytes ≠ [] := by
  obtain ⟨d, collected, rfl⟩ := listSubmissions_eq_ok h
  have listed : key ∈ d.entries.map (·.1) ↔ d.get? key = some () := by
    rw [← Dictionary.mem_entries_iff, List.mem_map]
    exact ⟨fun ⟨_, mem, same⟩ => same ▸ mem, fun mem => ⟨_, mem, rfl⟩⟩
  rw [listed, get?_collectKeys collected]
  simp [Selected]

/-- A listed key is stored. -/
theorem contains_of_mem_listSubmissions (h : listSubmissions store entryPrefix suffix = .ok keys)
    {key : String} (mem : key ∈ keys) : store.objects.contains key = true := by
  obtain ⟨-, bytes, found, -⟩ := (mem_listSubmissions_iff h).mp mem
  exact Dictionary.contains_eq_true_iff.mpr ⟨bytes, found⟩

/-- A store that grows outside of the selected keys lists the same. -/
theorem listSubmissions_eq_of_keptIn (kept : store.KeptIn later)
    (apart : ∀ key, Selected entryPrefix suffix key → later.objects.contains key = true →
      store.objects.contains key = true) :
    listSubmissions later entryPrefix suffix = listSubmissions store entryPrefix suffix := by
  obtain ⟨keys, listed⟩ := listSubmissions_memory store entryPrefix suffix
  obtain ⟨keys', listed'⟩ := listSubmissions_memory later entryPrefix suffix
  rw [listed, listed']
  refine congrArg Except.ok ?_
  refine (ascending_listSubmissions listed').eq_of_mem_iff (ascending_listSubmissions listed) ?_
  intro key
  rw [mem_listSubmissions_iff listed, mem_listSubmissions_iff listed']
  refine and_congr_right fun selected => ?_
  constructor
  · rintro ⟨bytes, found, full⟩
    have held := apart key selected (Dictionary.contains_eq_true_iff.mpr ⟨bytes, found⟩)
    exact ⟨bytes, (kept.get?_eq held).symm.trans found, full⟩
  · rintro ⟨bytes, found, full⟩
    exact ⟨bytes, kept key bytes found, full⟩

end

/-- The listing of a store ascends strictly in the order of bytes.  It has exactly the keys of
objects with bytes that go on from the entry prefix and one of the texts that the suffix stands
for. -/
theorem listSubmissions_selects (store : MemoryStore) (entryPrefix suffix : String) :
    ∃ keys, listSubmissions store entryPrefix suffix = .ok keys ∧
      keys.Pairwise (fun key later => Utf8.encode key < Utf8.encode later) ∧
      ∀ key, key ∈ keys ↔
        (∃ bytes, store.objects.get? key = some bytes ∧ bytes ≠ []) ∧
          ∃ expansion ∈ expandRanges suffix, ∃ rest, key = entryPrefix ++ expansion ++ rest := by
  obtain ⟨keys, listed⟩ := listSubmissions_memory store entryPrefix suffix
  refine ⟨keys, listed, ?_, fun key => ?_⟩
  · exact (ascending_listSubmissions listed).imp Utf8.encode_lt_encode_iff.mpr
  · rw [mem_listSubmissions_iff listed, Selected, and_comm]
    simp only [Text.startsWith_iff_exists]

-- The suffix stands for `1` and for `10`, and a key under both of them is listed once.
example : listSubmissions
    (MemoryStore.ofList [("e/2", [0]), ("e/10", [0]), ("e/1", []), ("e/0", [0]), ("f/1", [0])])
    "e/" "[1-12]" = .ok ["e/10", "e/2"] := by decide +kernel

end SurveyDispatch
