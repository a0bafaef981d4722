import SurveyDispatch.Proofs.Batch.Accounting
import SurveyDispatch.Proofs.Sync.Visit
import SurveyDispatch.Proofs.Submission.Attachments

/-!
# Syncing a store submission by submission

A sync over a store reads the listed keys from the store that it changes.  `VisitsAll` is a run of
visits to submissions that are known from the start.  The two agree (`syncKeys_eq`): the store only
grows, so a listed key still has the bytes that it had when it was listed.

`syncStore_sequential` puts this together with what a single visit does.
-/

namespace SurveyDispatch

/-! ## Submissions of a store -/

namespace MemoryStore

/-- The submission that the object of a key holds. -/
def submission? (settings : SubmissionSettings) (store : MemoryStore) (key : String) :
    Option Submission :=
  (store.objects.get? key).bind fun bytes => (Submission.ofBytes settings bytes).toOption

/-- The submissions that the objects of keys hold. -/
def submissions (settings : SubmissionSettings) (store : MemoryStore) (keys : List String) :
    List Submission :=
  keys.filterMap (store.submission? settings)

/-- How many keys hold no submission. -/
def countInvalid (settings : SubmissionSettings) (store : MemoryStore) (keys : List String) : Nat :=
  keys.countP fun key => (store.submission? settings key).isNone

variable {settings : SubmissionSettings} {store later : MemoryStore} {key : String} {bytes : Bytes}
  {x : Submission}

theorem submission?_eq_some_iff : store.submission? settings key = some x ↔
    ∃ bytes, store.objects.get? key = some bytes ∧ Submission.ofBytes settings bytes = .ok x := by
  rw [submission?, Option.bind_eq_some_iff]
  refine exists_congr fun bytes => and_congr_right fun _ => ?_
  cases Submission.ofBytes settings bytes <;> simp [Except.toOption]

theorem submission?_eq_none {fault : SubmissionFault} (found : store.objects.get? key = some bytes)
    (refused : Submission.ofBytes settings bytes = .error fault) :
    store.submission? settings key = none := by
  simp [submission?, found, refused, Except.toOption]

/-- The attachments of a stored submission have storage paths. -/
theorem storagePath_ne_empty (held : store.submission? settings key = some x) :
    ∀ a ∈ x.attachments, a.storagePath ≠ "" := by
  obtain ⟨bytes, -, read⟩ := submission?_eq_some_iff.mp held
  exact Submission.storagePath_ne_empty (Submission.ofBytes_eq_ok read).2

theorem storagePath_ne_empty_of_mem {keys : List String}
    (mem : x ∈ store.submissions settings keys) : ∀ a ∈ x.attachments, a.storagePath ≠ "" := by
  obtain ⟨key, -, held⟩ := List.mem_filterMap.mp mem
  exact storagePath_ne_empty held

section

variable {keys : List String} (kept : store.KeptIn later)
  (held : ∀ key ∈ keys, store.objects.contains key = true)

include kept held

/-- A store that only grows keeps its submissions. -/
theorem submissions_of_keptIn : later.submissions settings keys = store.submissions settings keys :=
  List.filterMap_congr fun key mem => by
    rw [submission?, submission?, kept.get?_eq (held key mem)]

theorem countInvalid_of_keptIn :
    later.countInvalid settings keys = store.countInvalid settings keys :=
  List.countP_congr fun key mem => by
    rw [submission?, submission?, kept.get?_eq (held key mem)]

end

/-- How many attachments of each submission are lacking. -/
def census (store : MemoryStore) (xs : List Submission) : List Nat :=
  xs.map fun x => (store.lacking x.attachments).length

end MemoryStore

variable {τ : Type}

theorem collectKeys_fst (s : MemoryStore × τ) (entryPrefix : String) :
    ∀ (expansions : List String) (keys : Dictionary Unit),
      collectKeys s entryPrefix expansions keys = collectKeys s.1 entryPrefix expansions keys
  | [], _ => rfl
  | _ :: rest, _ => collectKeys_fst s entryPrefix rest _

/-- A source beside a store has no influence on what is listed. -/
theorem listSubmissions_fst (s : MemoryStore × τ) (entryPrefix suffix : String) :
    listSubmissions s entryPrefix suffix = listSubmissions s.1 entryPrefix suffix := by
  rw [listSubmissions, listSubmissions, collectKeys_fst]

variable [AttachmentSource τ]

/-! ## Runs of visits -/

/-- Submissions are visited one after the other. -/
inductive VisitsAll (skipDownload : Bool) :
    MemoryStore × τ → List Submission → List SyncSummary → MemoryStore × τ → Prop where
  | nil (s : MemoryStore × τ) : VisitsAll skipDownload s [] [] s
  | cons {s next s' : MemoryStore × τ} {x : Submission} {rest : List Submission} {v : SyncSummary}
      {visits : List SyncSummary} :
      Visits skipDownload s x v next → VisitsAll skipDownload next rest visits s' →
      VisitsAll skipDownload s (x :: rest) (v :: visits) s'

theorem exists_visitsAll (skipDownload : Bool) : ∀ (xs : List Submission) (s : MemoryStore × τ),
    ∃ visits s', VisitsAll skipDownload s xs visits s'
  | [], s => ⟨[], s, .nil s⟩
  | x :: rest, s => by
    obtain ⟨v, next, first⟩ := exists_visits skipDownload s x
    obtain ⟨visits, s', others⟩ := exists_visitsAll skipDownload rest next
    exact ⟨v :: visits, s', .cons first others⟩

/-- Syncs submissions one after the other and gives what each of them comes to. -/
def syncEach {σ : Type} [ObjectStore σ] [AttachmentSource σ] :
    σ → List Submission → List (Except StoreFault SyncSummary) × σ
  | state, [] => ([], state)
  | state, x :: rest =>
    let (result, state) := syncAttachments state x
    let (results, state) := syncEach state rest
    (result :: results, state)

namespace StoreSyncSummary

variable (r : StoreSyncSummary) (listed invalid : Nat) (v : SyncSummary) (visits : List SyncSummary)

theorem plus_invalid : ({ r with total := r.total + 1, invalid := r.invalid + 1 } :
    StoreSyncSummary).plus listed invalid visits = r.plus (listed + 1) (invalid + 1) visits := by
  simp only [plus, Nat.add_assoc, Nat.add_comm 1]

theorem plus_visit : (({ r with total := r.total + 1 } : StoreSyncSummary).plus 0 0 [v]).plus
    listed invalid visits = r.plus (listed + 1) invalid (v :: visits) := by
  simp only [plus, List.countP_cons, List.countP_nil, List.map_cons, List.map_nil, List.sum_cons,
    List.sum_nil, Nat.add_zero, Nat.zero_add, Nat.add_assoc, Nat.add_comm 1, mk.injEq, true_and,
    and_true]
  omega

end StoreSyncSummary

namespace VisitsAll

variable {skipDownload : Bool} {s s' : MemoryStore × τ} {xs : List Submission}
  {visits : List SyncSummary}

/-- Syncing submissions one after the other is a run of visits. -/
theorem syncEach_eq (h : VisitsAll false s xs visits s')
    (named : ∀ x ∈ xs, ∀ a ∈ x.attachments, a.storagePath ≠ "") :
    syncEach s xs = (visits.map .ok, s') := by
  induction h with
  | nil s => rfl
  | cons first _ ih =>
    obtain ⟨name, named⟩ := List.forall_mem_cons.mp named
    simp only [syncEach, first.syncAttachments_eq name, ih named, List.map_cons]

/-- The loop over keys is a run of visits to the submissions that an earlier store has there. -/
theorem syncKeys_eq {settings : SubmissionSettings} {base : MemoryStore} :
    ∀ {keys : List String} {s : MemoryStore × τ} {visits : List SyncSummary},
      VisitsAll skipDownload s (base.submissions settings keys) visits s' → base.KeptIn s.1 →
      (∀ key ∈ keys, base.objects.contains key = true) → ∀ summary : StoreSyncSummary,
      syncKeys settings skipDownload s summary keys =
        (.ok (summary.plus keys.length (base.countInvalid settings keys) visits), s')
  | [], s, visits, h, kept, held, summary => by
    cases h
    rfl
  | key :: rest, s, visits, h, kept, held, summary => by
    obtain ⟨here, held⟩ := List.forall_mem_cons.mp held
    obtain ⟨bytes, found⟩ := Dictionary.contains_eq_true_iff.mp here
    -- The key still has the bytes of the earlier store.
    have got : ObjectStore.get s key = .ok bytes :=
      MemoryStore.get_eq_ok_iff.mpr (kept key bytes found)
    simp only [syncKeys, got]
    cases read : Submission.ofBytes settings bytes with
    | error fault =>
      have none : base.submission? settings key = none :=
        MemoryStore.submission?_eq_none found read
      have others : base.submissions settings (key :: rest) = base.submissions settings rest :=
        List.filterMap_cons_none none
      have count : base.countInvalid settings (key :: rest) =
          base.countInvalid settings rest + 1 :=
        List.countP_cons_of_pos (by rw [none]; rfl)
      rw [others] at h
      simp only [syncKeys_eq h kept held, StoreSyncSummary.plus_invalid, List.length_cons, count]
    | ok x =>
      have some : base.submission? settings key = some x :=
        MemoryStore.submission?_eq_some_iff.mpr ⟨bytes, found, read⟩
      have others : base.submissions settings (key :: rest) =
          x :: base.submissions settings rest := List.filterMap_cons_some some
      have count : base.countInvalid settings (key :: rest) = base.countInvalid settings rest :=
        List.countP_cons_of_neg (by rw [some]; exact Bool.false_ne_true)
      rw [others] at h
      cases h with
      | cons first h =>
        simp only [first.syncNext_eq (MemoryStore.storagePath_ne_empty some),
          syncKeys_eq h (kept.trans first.keptIn) held, StoreSyncSummary.plus_visit,
          List.length_cons, count]

theorem keptIn (h : VisitsAll skipDownload s xs visits s') : s.1.KeptIn s'.1 := by
  induction h with
  | nil s => exact .refl s.1
  | cons first _ ih => exact first.keptIn.trans ih

/-- Whatever was missing is either copied or has failed. -/
theorem settled (h : VisitsAll false s xs visits s') :
    (visits.map (·.copied)).sum + (visits.map (·.failed)).sum = (visits.map (·.missing)).sum := by
  induction h with
  | nil s => rfl
  | cons first _ ih =>
    have here := first.settled
    simp only [List.map_cons, List.sum_cons]
    omega

/-- Every missing attachment is asked for once. -/
theorem exists_asked (h : VisitsAll false s xs visits s') :
    ∃ asked, s'.2 = askAll s.2 asked ∧ asked.length = (visits.map (·.missing)).sum := by
  induction h with
  | nil s => exact ⟨[], rfl, rfl⟩
  | @cons s next _ x _ v _ first _ ih =>
    obtain ⟨asked, source, length⟩ := ih
    refine ⟨(s.1.lacking x.attachments).map Attachment.downloadUrl ++ asked, ?_, ?_⟩
    · rw [source, first.source_eq, askAll_append]
    · rw [List.length_append, List.length_map, ← first.missing, length, List.map_cons,
        List.sum_cons]

end VisitsAll

/-! ## The whole sync -/

/-- A sync over a store is a run of visits to the submissions that are listed at its start. -/
theorem exists_syncStore (settings : SubmissionSettings) (s : MemoryStore × τ)
    (entryPrefix suffix : String) (skipDownload : Bool) :
    ∃ keys visits s', listSubmissions s.1 entryPrefix suffix = .ok keys ∧
      VisitsAll skipDownload s (s.1.submissions settings keys) visits s' ∧
      syncStore s settings entryPrefix suffix skipDownload =
        (.ok (StoreSyncSummary.plus {} keys.length (s.1.countInvalid settings keys) visits),
          s') := by
  obtain ⟨keys, listed⟩ := listSubmissions_memory s.1 entryPrefix suffix
  obtain ⟨visits, s', run⟩ := exists_visitsAll skipDownload (s.1.submissions settings keys) s
  refine ⟨keys, visits, s', listed, run, ?_⟩
  rw [syncStore, listSubmissions_fst, listed]
  exact run.syncKeys_eq (.refl s.1) (fun key mem => contains_of_mem_listSubmissions listed mem) {}

/-- A summary counts the keys of a store and sums up the visits to their submissions. -/
structure StoreSyncSummary.SumsUp (r : StoreSyncSummary) (settings : SubmissionSettings)
    (store : MemoryStore) (keys : List String) (visits : List SyncSummary) : Prop where
  /-- All keys are counted. -/
  total : r.total = keys.length
  /-- So are the keys without a submission. -/
  invalid : r.invalid = store.countInvalid settings keys
  /-- So are the visits with an attachment that is missing. -/
  incomplete : r.incomplete = visits.countP fun v => 0 < v.missing
  /-- The missing attachments are those of all visits. -/
  missing : r.missing = (visits.map (·.missing)).sum
  /-- So are the downloaded ones. -/
  downloaded : r.downloaded = (visits.map (·.copied)).sum
  /-- So are the failed ones. -/
  failed : r.failed = (visits.map (·.failed)).sum

theorem StoreSyncSummary.sumsUp_plus (settings : SubmissionSettings) (store : MemoryStore)
    (keys : List String) (visits : List SyncSummary) :
    (plus {} keys.length (store.countInvalid settings keys) visits).SumsUp settings store keys
      visits :=
  ⟨Nat.zero_add _, Nat.zero_add _, Nat.zero_add _, Nat.zero_add _, Nat.zero_add _, Nat.zero_add _⟩

theorem StoreSyncSummary.SumsUp.incomplete_eq {r : StoreSyncSummary}
    {settings : SubmissionSettings} {store : MemoryStore} {keys : List String}
    {visits : List SyncSummary} (h : r.SumsUp settings store keys visits) :
    r.incomplete = (visits.map (·.missing)).countP fun m => 0 < m := by
  rw [h.incomplete, List.countP_map]
  rfl

/-- A sync over a store never fails.  It does what syncing the listed submissions one after the
other does, and sums up what they come to.  Every missing attachment is asked for once, and is
downloaded or fails.  Every object of the store keeps its bytes. -/
theorem syncStore_sequential (settings : SubmissionSettings) (store : MemoryStore) (source : τ)
    (entryPrefix suffix : String) :
    ∃ keys visits summary after,
      listSubmissions store entryPrefix suffix = .ok keys ∧
      syncStore (store, source) settings entryPrefix suffix false = (.ok summary, after) ∧
      syncEach (store, source) (store.submissions settings keys) = (visits.map .ok, after) ∧
      summary.SumsUp settings store keys visits ∧
      summary.downloaded + summary.failed = summary.missing ∧
      (∃ asked, after.2 = askAll source asked ∧ asked.length = summary.missing) ∧
      store.KeptIn after.1 := by
  obtain ⟨keys, visits, after, listed, run, ran⟩ :=
    exists_syncStore settings (store, source) entryPrefix suffix false
  have sums := StoreSyncSummary.sumsUp_plus settings store keys visits
  have each := run.syncEach_eq fun x mem => MemoryStore.storagePath_ne_empty_of_mem mem
  refine ⟨keys, visits, _, after, listed, ran, each, sums, ?_, ?_, run.keptIn⟩
  · rw [sums.downloaded, sums.failed, sums.missing]
    exact run.settled
  · rw [sums.missing]
    exact run.exists_asked

/-! ## A small album

Two submissions with an image each and an object that is no submission.  One of the images is
served. -/

/-- The store of the small album. -/
def MemoryStore.album : MemoryStore :=
  .ofList [("e/1", Utf8.encode ("\x7b\"p\":\"P\",\"s\":1,\"f\":\"F\"," ++
      "\"a\":\x7b\"q\":\x7b\"i\":\"i.png\"\x7d\x7d\x7d")),
    ("e/2", Utf8.encode ("\x7b\"p\":\"P\",\"s\":2,\"f\":\"F\"," ++
      "\"a\":\x7b\"q\":\x7b\"i\":\"i.png\"\x7d\x7d\x7d")),
    ("e/3", Utf8.encode "x")]

/-- The source of the small album. -/
def MemorySource.album : MemorySource :=
  .ofList [("https://forms.example.com/attachments/P-1i.png", [1])]

/-- Settings that store attachments under the entry prefix of the small album. -/
def SubmissionSettings.nested : SubmissionSettings := { small with storagePath := "e" }

theorem syncStore_sequential_album :
    ∃ after, syncStore (MemoryStore.album, MemorySource.album) .nested "e/" "" false =
        (.ok ⟨3, 1, 2, 2, 1, 1⟩, after) ∧
      after.2.fetches = 2 ∧ MemoryStore.album.KeptIn after.1 := by
  obtain ⟨-, -, summary, after, -, ran, -, -, -, ⟨asked, source, length⟩, kept⟩ :=
    syncStore_sequential .nested .album MemorySource.album "e/" ""
  have ends : (syncStore (MemoryStore.album, MemorySource.album) .nested "e/" "" false).1 =
      .ok ⟨3, 1, 2, 2, 1, 1⟩ := by decide +kernel
  rw [ran] at ends
  cases ends
  refine ⟨after, ran, ?_, kept⟩
  rw [source, MemorySource.askAll_eq, length]
  rfl

end SurveyDispatch
