import Mathlib.Algebra.Order.BigOperators.Group.List
import SurveyDispatch.Proofs.Sync.Sequence

/-!
# Counting without downloading

A sync that only counts leaves its store alone, so each submission is compared with the store as it
was at the start.  A sync that downloads compares a submission with a store that has grown since.
It finds at most as many attachments missing (`VisitsAll.missing_le_census`).  It finds the same if
no submission stores what a later one looks for (`VisitsAll.missing_eq_census`).
-/

namespace SurveyDispatch

variable {τ : Type} [AttachmentSource τ]

/-- Submissions without a common storage path. -/
def Submission.Apart (x y : Submission) : Prop :=
  ∀ a ∈ x.attachments, ∀ b ∈ y.attachments, a.storagePath ≠ b.storagePath

instance : DecidableRel Submission.Apart :=
  fun x y => inferInstanceAs (Decidable (∀ a ∈ x.attachments, ∀ b ∈ y.attachments, _))

namespace VisitsAll

variable {s s' : MemoryStore × τ} {xs : List Submission} {visits : List SyncSummary}
  {base : MemoryStore}

/-- A run that only counts changes nothing and finds missing what is lacking at its start. -/
theorem of_skipDownload (h : VisitsAll true s xs visits s') :
    s' = s ∧ (visits.map (·.copied)).sum = 0 ∧ (visits.map (·.failed)).sum = 0 ∧
      visits.map (·.missing) = s.1.census xs := by
  induction h with
  | nil s => exact ⟨rfl, rfl, rfl, rfl⟩
  | @cons s next s' x rest v visits first others ih =>
    obtain ⟨rfl, copied, failed⟩ := first.of_skipDownload
    obtain ⟨rfl, copied', failed', missing⟩ := ih
    simp [copied, copied', failed, failed', missing, first.missing, MemoryStore.census]

/-- What is missing on the way was lacking in every earlier store. -/
theorem missing_le_census (h : VisitsAll false s xs visits s') (kept : base.KeptIn s.1) :
    List.Forall₂ (· ≤ ·) (visits.map (·.missing)) (base.census xs) := by
  induction h with
  | nil s => exact .nil
  | @cons s next s' x rest v visits first others ih =>
    have here : v.missing ≤ (base.lacking x.attachments).length := by
      rw [first.missing]
      exact (MemoryStore.lacking_sublist kept).length_le
    exact .cons here (ih (kept.trans first.keptIn))

/-- Submissions without common storage paths find missing what was lacking at the start. -/
theorem missing_eq_census (h : VisitsAll false s xs visits s')
    (apart : xs.Pairwise Submission.Apart) : visits.map (·.missing) = s.1.census xs := by
  induction h with
  | nil s => rfl
  | @cons s next s' x rest v visits first others ih =>
    obtain ⟨here, apart⟩ := List.pairwise_cons.mp apart
    -- The first visit writes no storage path of the others.
    have same : next.1.census rest = s.1.census rest := by
      refine List.map_congr_left fun y mem => congrArg List.length ?_
      refine List.filter_congr fun b mem' => ?_
      rw [Dictionary.contains, Dictionary.contains,
        first.get?_of_ne fun a mem'' => here y mem a mem'' b mem']
    rw [List.map_cons, ih apart, same, first.missing]
    rfl

end VisitsAll

theorem countP_le_of_forall₂ {ms ns : List Nat} (h : List.Forall₂ (· ≤ ·) ms ns) :
    (ms.countP fun m => 0 < m) ≤ ns.countP fun n => 0 < n := by
  induction h with
  | nil => exact Nat.le_refl 0
  | @cons m n _ _ le _ ih =>
    rw [List.countP_cons, List.countP_cons]
    refine Nat.add_le_add ih ?_
    by_cases none : 0 < m
    · simp [none, Nat.lt_of_lt_of_le none le]
    · simp [none]

/-- A sync that only counts changes nothing and downloads nothing.  A sync from the same store
counts the same submissions, and finds no more attachments missing and no more submissions
incomplete.  It finds as many if no two submissions have a common storage path. -/
theorem syncStore_counting (settings : SubmissionSettings) (store : MemoryStore) (source : τ)
    (entryPrefix suffix : String) :
    ∃ keys counted synced after,
      listSubmissions store entryPrefix suffix = .ok keys ∧
      syncStore (store, source) settings entryPrefix suffix true =
        (.ok counted, (store, source)) ∧
      syncStore (store, source) settings entryPrefix suffix false = (.ok synced, after) ∧
      counted.downloaded = 0 ∧ counted.failed = 0 ∧
      synced.total = counted.total ∧ synced.invalid = counted.invalid ∧
      synced.missing ≤ counted.missing ∧ synced.incomplete ≤ counted.incomplete ∧
      ((store.submissions settings keys).Pairwise Submission.Apart →
        synced.missing = counted.missing ∧ synced.incomplete = counted.incomplete) := by
  obtain ⟨keys, visits, same, listed, run, ran⟩ :=
    exists_syncStore settings (store, source) entryPrefix suffix true
  obtain ⟨keys', visits', after, listed', run', ran'⟩ :=
    exists_syncStore settings (store, source) entryPrefix suffix false
  obtain rfl : keys' = keys := Except.ok.inj (listed'.symm.trans listed)
  have sums := StoreSyncSummary.sumsUp_plus settings store keys' visits
  have sums' := StoreSyncSummary.sumsUp_plus settings store keys' visits'
  obtain ⟨rfl, copied, failed, census⟩ := run.of_skipDownload
  have less := run'.missing_le_census (.refl store)
  refine ⟨keys', _, _, after, listed, ran, ran', ?_, ?_, ?_, ?_, ?_, ?_, fun apart => ?_⟩
  · rw [sums.downloaded, copied]
  · rw [sums.failed, failed]
  · rw [sums'.total, sums.total]
  · rw [sums'.invalid, sums.invalid]
  · rw [sums'.missing, sums.missing, census]
    exact less.sum_le_sum
  · rw [sums'.incomplete_eq, sums.incomplete_eq, census]
    exact countP_le_of_forall₂ less
  · rw [sums'.missing, sums.missing, sums'.incomplete_eq, sums.incomplete_eq, census,
      run'.missing_eq_census apart]
    exact ⟨rfl, rfl⟩

theorem syncStore_counting_album :
    ∃ counted synced after,
      syncStore (MemoryStore.album, MemorySource.album) .small "e/" "" true =
        (.ok counted, (MemoryStore.album, MemorySource.album)) ∧
      syncStore (MemoryStore.album, MemorySource.album) .small "e/" "" false = (.ok synced, after) ∧
      counted = ⟨3, 1, 2, 2, 0, 0⟩ ∧ synced.missing = 2 ∧ synced.incomplete = 2 := by
  obtain ⟨keys, counted, synced, after, listed, dry, real, -, -, -, -, -, -, equal⟩ :=
    syncStore_counting .small .album MemorySource.album "e/" ""
  have list : listSubmissions MemoryStore.album "e/" "" = .ok ["e/1", "e/2", "e/3"] := by
    decide +kernel
  have ends : (syncStore (MemoryStore.album, MemorySource.album) .small "e/" "" true).1 =
      .ok ⟨3, 1, 2, 2, 0, 0⟩ := by decide +kernel
  obtain rfl : ["e/1", "e/2", "e/3"] = keys := Except.ok.inj (list.symm.trans listed)
  rw [dry] at ends
  obtain rfl : counted = ⟨3, 1, 2, 2, 0, 0⟩ := Except.ok.inj ends
  obtain ⟨missing, incomplete⟩ := equal (by decide +kernel)
  exact ⟨_, synced, after, dry, real, rfl, missing, incomplete⟩

end SurveyDispatch
