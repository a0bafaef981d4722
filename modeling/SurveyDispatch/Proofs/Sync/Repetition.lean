import SurveyDispatch.Proofs.Sync.Sequence

/-!
# Syncing again

After a sync with a steady source an attachment is lacking only if the source does not serve it
(`VisitsAll.unserved`).  It was counted as failed when its submission was visited, and there may be
other failures: a later submission can supply what an earlier one asked for in vain.  So what is
lacking is at most what failed (`VisitsAll.sum_census_le`).

A second sync asks for just what is lacking, and so it stores nothing.  It lists the same keys as
the first one if no attachment was stored among them.
-/

namespace SurveyDispatch

variable {τ : Type} [AttachmentSource τ]

namespace VisitsAll

variable {skipDownload : Bool} {s s' : MemoryStore × τ} {xs : List Submission}
  {visits : List SyncSummary} {answer : String → Option Bytes}

theorem steady (h : VisitsAll skipDownload s xs visits s') (steady : Steady s.2 answer) :
    Steady s'.2 answer := by
  induction h with
  | nil s => exact steady
  | cons first _ ih => exact ih (first.steady steady)

theorem get?_of_ne (h : VisitsAll skipDownload s xs visits s') {key : String}
    (other : ∀ x ∈ xs, ∀ a ∈ x.attachments, a.storagePath ≠ key) :
    s'.1.objects.get? key = s.1.objects.get? key := by
  induction h with
  | nil s => rfl
  | cons first _ ih =>
    obtain ⟨here, other⟩ := List.forall_mem_cons.mp other
    rw [ih other, first.get?_of_ne here]

/-- A run that stores nothing among the selected keys leaves the listing as it was. -/
theorem listSubmissions_eq (h : VisitsAll skipDownload s xs visits s') {entryPrefix suffix : String}
    (apart : ∀ x ∈ xs, ∀ a ∈ x.attachments, ¬ Selected entryPrefix suffix a.storagePath) :
    listSubmissions s'.1 entryPrefix suffix = listSubmissions s.1 entryPrefix suffix := by
  refine listSubmissions_eq_of_keptIn h.keptIn fun key selected found => ?_
  have other : s'.1.objects.get? key = s.1.objects.get? key :=
    h.get?_of_ne fun x mem a mem' eq => apart x mem a mem' (eq ▸ selected)
  rw [Dictionary.contains, other] at found
  exact found

/-- What is lacking after the run is not served. -/
theorem unserved (h : VisitsAll false s xs visits s') (steady : Steady s.2 answer) :
    ∀ x ∈ xs, ∀ a ∈ s'.1.lacking x.attachments, answer a.downloadUrl = none := by
  induction h with
  | nil s => exact fun _ mem => nomatch mem
  | cons first others ih =>
    refine List.forall_mem_cons.mpr ⟨fun a lacking => ?_, ih (first.steady steady)⟩
    exact first.unserved steady a ((MemoryStore.lacking_sublist others.keptIn).subset lacking)

/-- What is lacking after the run failed in the run. -/
theorem sum_census_le (h : VisitsAll false s xs visits s') :
    (s'.1.census xs).sum ≤ (visits.map (·.failed)).sum := by
  induction h with
  | nil s => exact Nat.le_refl 0
  | @cons s next s' x rest v visits first others ih =>
    have here : (s'.1.lacking x.attachments).length ≤ v.failed :=
      (MemoryStore.lacking_sublist others.keptIn).length_le.trans first.lacking_le_failed
    exact Nat.add_le_add here ih

/-- A run that is not served what is lacking copies nothing, and everything lacking is missing. -/
theorem of_unserved (h : VisitsAll false s xs visits s') (steady : Steady s.2 answer)
    (unserved : ∀ x ∈ xs, ∀ a ∈ s.1.lacking x.attachments, answer a.downloadUrl = none) :
    s'.1 = s.1 ∧ (visits.map (·.copied)).sum = 0 ∧ visits.map (·.missing) = s.1.census xs := by
  induction h with
  | nil s => exact ⟨rfl, rfl, rfl⟩
  | @cons s next s' x rest v visits first others ih =>
    obtain ⟨here, unserved⟩ := List.forall_mem_cons.mp unserved
    obtain ⟨same, copied⟩ := first.of_unserved steady here
    rw [← same] at unserved
    obtain ⟨same', copied', missing⟩ := ih (first.steady steady) unserved
    refine ⟨same'.trans same, ?_, ?_⟩
    · rw [List.map_cons, List.sum_cons, copied, copied']
    · rw [List.map_cons, missing, first.missing, same]
      rfl

end VisitsAll

/-- A second sync changes nothing if no attachment is stored where submissions are listed.  It
counts the same submissions, downloads nothing, and fails on what it finds missing, which failed in
the first sync too. -/
theorem syncStore_again (settings : SubmissionSettings) (store : MemoryStore) {source : τ}
    {answer : String → Option Bytes} (steady : Steady source answer) (entryPrefix suffix : String)
    (apart : ∀ keys, listSubmissions store entryPrefix suffix = .ok keys →
      ∀ x ∈ store.submissions settings keys, ∀ a ∈ x.attachments,
        ¬ Selected entryPrefix suffix a.storagePath) :
    ∃ first second after last,
      syncStore (store, source) settings entryPrefix suffix false = (.ok first, after) ∧
      syncStore after settings entryPrefix suffix false = (.ok second, last) ∧
      last.1 = after.1 ∧ second.total = first.total ∧ second.invalid = first.invalid ∧
      second.downloaded = 0 ∧ second.failed = second.missing ∧ second.missing ≤ first.failed := by
  obtain ⟨keys, visits, after, listed, run, ran⟩ :=
    exists_syncStore settings (store, source) entryPrefix suffix false
  obtain ⟨keys', visits', last, listed', run', ran'⟩ :=
    exists_syncStore settings after entryPrefix suffix false
  have held : ∀ key ∈ keys, store.objects.contains key = true :=
    fun key mem => contains_of_mem_listSubmissions listed mem
  have kept : store.KeptIn after.1 := run.keptIn
  have same : keys' = keys := by
    have lists := run.listSubmissions_eq (apart keys listed)
    rw [listed, listed'] at lists
    exact Except.ok.inj lists
  rw [same, MemoryStore.submissions_of_keptIn kept held] at run'
  rw [same, MemoryStore.countInvalid_of_keptIn kept held] at ran'
  have sums := StoreSyncSummary.sumsUp_plus settings store keys visits
  have sums' := StoreSyncSummary.sumsUp_plus settings store keys visits'
  obtain ⟨unchanged, copied, missing⟩ := run'.of_unserved (run.steady steady) (run.unserved steady)
  refine ⟨_, _, after, last, ran, ran', unchanged, ?_, ?_, ?_, ?_, ?_⟩
  · rw [sums'.total, sums.total]
  · rw [sums'.invalid, sums.invalid]
  · rw [sums'.downloaded, copied]
  · rw [sums'.failed, sums'.missing, ← run'.settled, copied, Nat.zero_add]
  · rw [sums'.missing, sums.failed, missing]
    exact run.sum_census_le

theorem syncStore_again_album :
    ∃ first second after last,
      syncStore (MemoryStore.album, MemorySource.album) .small "e/" "" false =
        (.ok first, after) ∧
      syncStore after .small "e/" "" false = (.ok second, last) ∧
      last.1 = after.1 ∧ first = ⟨3, 1, 2, 2, 1, 1⟩ ∧ second.total = 3 ∧ second.downloaded = 0 ∧
      second.missing ≤ 1 := by
  have list : listSubmissions MemoryStore.album "e/" "" = .ok ["e/1", "e/2", "e/3"] := by
    decide +kernel
  have ends : (syncStore (MemoryStore.album, MemorySource.album) .small "e/" "" false).1 =
      .ok ⟨3, 1, 2, 2, 1, 1⟩ := by decide +kernel
  have apart : ∀ keys, listSubmissions MemoryStore.album "e/" "" = .ok keys →
      ∀ x ∈ MemoryStore.album.submissions .small keys, ∀ a ∈ x.attachments,
        ¬ Selected "e/" "" a.storagePath := by
    intro keys listed
    obtain rfl : ["e/1", "e/2", "e/3"] = keys := Except.ok.inj (list.symm.trans listed)
    decide +kernel
  obtain ⟨first, second, after, last, ran, ran', same, total, -, downloaded, -, less⟩ :=
    syncStore_again .small .album MemorySource.album.steady "e/" "" apart
  rw [ran] at ends
  obtain rfl : first = ⟨3, 1, 2, 2, 1, 1⟩ := Except.ok.inj ends
  exact ⟨_, second, after, last, ran, ran', same, rfl, total, downloaded, less⟩

end SurveyDispatch
