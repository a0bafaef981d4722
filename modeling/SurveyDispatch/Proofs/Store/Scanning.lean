import SurveyDispatch.Proofs.Store.Growth
import SurveyDispatch.Proofs.Text.Order

/-!
# Listing a store in memory

A store in memory lists the keys that start with a text by a scan.  The scan begins at the text and
ends at the first key that does not start with it.  It misses nothing, because the keys that start
with a text stand next to each other (`MemoryStore.list_eq_filter`).
-/

namespace SurveyDispatch

section

variable {α : Type} {front : String}

/-- From the front on, the keys that start with it come first. -/
theorem takeWhile_startsWith : ∀ {entries : List (String × α)}, Ascending entries →
    (∀ e ∈ entries, front ≤ e.1) →
    entries.takeWhile (fun e => Text.startsWith e.1 front) =
      entries.filter fun e => Text.startsWith e.1 front
  | [], _, _ => rfl
  | e :: rest, h, above => by
    obtain ⟨least, tail⟩ := List.pairwise_cons.mp h
    rw [List.takeWhile_cons, List.filter_cons]
    cases starts : Text.startsWith e.1 front with
    | true =>
      rw [if_pos rfl, if_pos rfl,
        takeWhile_startsWith tail fun f mem => above f (List.mem_cons_of_mem e mem)]
    | false =>
      rw [if_neg Bool.false_ne_true, if_neg Bool.false_ne_true]
      symm
      rw [List.filter_eq_nil_iff]
      intro f mem starts'
      have between := Text.startsWith_of_le (above e List.mem_cons_self)
        (Std.le_of_lt (least f mem)) starts'
      rw [starts] at between
      cases between

/-- Keys with a common front are next to each other, so that scanning them misses none. -/
theorem scan_eq_filter : ∀ {entries : List (String × α)}, Ascending entries →
    (entries.dropWhile fun e => e.1 < front).takeWhile (fun e => Text.startsWith e.1 front) =
      entries.filter fun e => Text.startsWith e.1 front
  | [], _ => rfl
  | e :: rest, h => by
    obtain ⟨least, tail⟩ := List.pairwise_cons.mp h
    by_cases below : e.1 < front
    · have other : Text.startsWith e.1 front = false := by
        rw [← Bool.not_eq_true]
        intro starts
        exact String.not_lt.mpr (Text.le_of_startsWith starts) below
      rw [List.dropWhile_cons, if_pos (decide_eq_true below), List.filter_cons, other,
        if_neg Bool.false_ne_true]
      exact scan_eq_filter tail
    · rw [List.dropWhile_cons, if_neg (by simpa using below)]
      refine takeWhile_startsWith h fun f mem => ?_
      rw [← String.not_lt]
      rcases List.mem_cons.mp mem with rfl | mem
      · exact below
      · exact fun lt => below (String.lt_trans (least f mem) lt)

end

namespace MemoryStore

/-- The scan finds the objects whose keys start with a text. -/
theorem list_eq_filter (s : MemoryStore) (front : String) :
    s.list front = (s.objects.entries.filter fun e => Text.startsWith e.1 front).map
      fun e => ⟨e.1, e.2.length⟩ := by
  rw [list, scan_eq_filter s.objects.ascending]

/-- Listing gives the stored keys with the front, each with its size. -/
theorem mem_list_iff {s : MemoryStore} {front : String} {o : ObjectMeta} :
    o ∈ s.list front ↔ Text.startsWith o.key front = true ∧
      ∃ bytes, s.objects.get? o.key = some bytes ∧ o.size = bytes.length := by
  simp only [list_eq_filter, List.mem_map, List.mem_filter]
  constructor
  · rintro ⟨⟨key, bytes⟩, ⟨mem, starts⟩, rfl⟩
    exact ⟨starts, bytes, Dictionary.mem_entries_iff.mp mem, rfl⟩
  · rintro ⟨starts, bytes, found, size⟩
    refine ⟨(o.key, bytes), ⟨Dictionary.mem_entries_iff.mpr found, starts⟩, ?_⟩
    rw [← size]

/-- Listed keys ascend strictly. -/
theorem ascending_list (s : MemoryStore) (front : String) :
    (s.list front).Pairwise fun o o' => o.key < o'.key := by
  rw [list_eq_filter, List.pairwise_map]
  exact s.objects.ascending.filter _

end MemoryStore

end SurveyDispatch
