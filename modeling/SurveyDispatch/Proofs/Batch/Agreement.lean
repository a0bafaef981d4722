import SurveyDispatch.Proofs.Batch.Isolation
import SurveyDispatch.Proofs.Sync.Sequence

/-!
# Batches, queries and syncs agree

A batch, a query and a sync go through the same listing, each in a loop of its own.  A query judges
the record of a key, which need not be that of a submission.  A batch judges submissions, and a sync
only counts the keys that hold none.

Each loop is compared with what the keys of the store hold: a query finds the keys whose record
passes (`queryStore_eq_filter`), and the kind of an outcome is settled by the submission of the key
as far as it matters to the other two (`Pipeline.Judged`).
-/

namespace SurveyDispatch

/-! ## Queries -/

/-- The record that the object of a key holds. -/
def MemoryStore.record? (store : MemoryStore) (key : String) : Option Document :=
  (store.objects.get? key).bind Document.read?

/-- Whether the record of a key passes some rule set. -/
def MemoryStore.passes (store : MemoryStore) (query : List RuleSet) (key : String) : Bool :=
  (store.record? key).any fun record => (RuleSet.firstMatch record query).matched

/-- Where a key holds a submission, the record of the key is that of the submission. -/
theorem MemoryStore.record?_eq_some {settings : SubmissionSettings} {store : MemoryStore}
    {key : String} {x : Submission} (held : store.submission? settings key = some x) :
    store.record? key = some x.record := by
  obtain ⟨bytes, found, read⟩ := submission?_eq_some_iff.mp held
  rw [record?, found]
  exact (Submission.ofBytes_eq_ok read).1

section

variable {store : MemoryStore} {query : List RuleSet} {keys : List String}

/-- A query over keys that are all stored keeps those that pass, in order. -/
theorem matchingKeys_eq_filter (held : ∀ key ∈ keys, store.objects.contains key = true) :
    matchingKeys store query keys = .ok (keys.filter (store.passes query)) := by
  induction keys with
  | nil => rfl
  | cons key rest ih =>
    obtain ⟨here, held⟩ := List.forall_mem_cons.mp held
    obtain ⟨bytes, found⟩ := Dictionary.contains_eq_true_iff.mp here
    have got : ObjectStore.get store key = .ok bytes := MemoryStore.get_eq_ok_iff.mpr found
    have record : store.record? key = Document.read? bytes := by
      rw [MemoryStore.record?, found, Option.bind_some]
    rw [List.filter_cons, MemoryStore.passes, record]
    simp only [matchingKeys, got, ih held]
    cases Document.read? bytes with
    | none => rfl
    | some d =>
      dsimp only [Option.any_some]
      by_cases matched : (RuleSet.firstMatch d query).matched = true
      · rw [if_pos matched, if_pos matched]
        rfl
      · rw [if_neg matched, if_neg matched]

/-- A query finds the listed keys whose record passes. -/
theorem queryStore_eq_filter {entryPrefix suffix : String}
    (listed : listSubmissions store entryPrefix suffix = .ok keys) :
    queryStore store entryPrefix suffix query = .ok (keys.filter (store.passes query)) := by
  rw [queryStore, listed]
  exact matchingKeys_eq_filter fun _ mem => contains_of_mem_listSubmissions listed mem

end

/-! ## Batches -/

namespace Pipeline

variable {p : Pipeline} {store : MemoryStore} {publisher publisher' : Publisher} {key : String}

/-- How a batch judges what a key holds. -/
inductive Judged (p : Pipeline) (store : MemoryStore) (key : String) : OutcomeKind → Prop where
  /-- There is no submission. -/
  | invalid : store.submission? p.settings key = none → Judged p store key .invalid
  /-- An exclusion passes. -/
  | excluded {x : Submission} : store.submission? p.settings key = some x →
      (p.engine.screen x.record).matched = true → Judged p store key .excluded
  /-- No exclusion passes. -/
  | admitted {x : Submission} {kind : OutcomeKind} : store.submission? p.settings key = some x →
      (p.engine.screen x.record).matched = false → kind ≠ .invalid → kind ≠ .excluded →
      Judged p store key kind

/-- An outcome that is settled before publishing is judged as the store says. -/
theorem judged_of_settle {outcome : Outcome} (h : p.settle store key = .ok (.inl outcome)) :
    Judged p store key outcome.kind := by
  unfold settle at h
  split at h
  · cases h
  next bytes stored =>
    have found := MemoryStore.get_eq_ok_iff.mp stored
    unfold prepare at h
    split at h
    next fault refused =>
      cases h
      exact .invalid (MemoryStore.submission?_eq_none found refused)
    next x read =>
      have held := MemoryStore.submission?_eq_some_iff.mpr ⟨bytes, found, read⟩
      dsimp only at h
      split at h
      next matched =>
        cases h
        exact .excluded held matched
      next unmatched =>
        have admitted : outcome.kind ≠ .invalid → outcome.kind ≠ .excluded →
            Judged p store key outcome.kind :=
          .admitted held (Bool.eq_false_iff.mpr unmatched)
        split at h
        · cases h
          exact admitted nofun nofun
        · split at h
          · cases h
            exact admitted nofun nofun
          · split at h
            · cases h
            · cases h
              exact admitted nofun nofun
            · cases h

/-- A step that does not fail judges its key. -/
theorem Step.judged {outcome : Outcome} (h : Step p store publisher key (.ok outcome) publisher') :
    Judged p store key outcome.kind := by
  cases h with
  | held _ settled _ => exact judged_of_settle settled
  | published ready settled _ =>
    obtain ⟨x, point, publishable, -⟩ := settle_ready settled
    obtain ⟨bytes, stored, read⟩ := publishable.stored
    have found := MemoryStore.get_eq_ok_iff.mp stored
    exact .admitted (MemoryStore.submission?_eq_some_iff.mpr ⟨bytes, found, read⟩)
      publishable.screened nofun nofun

/-- Each outcome of a run over keys is judged as the store says. -/
theorem Processed.judged {outcomes : List (String × Outcome)}
    (h : Processed p store publisher outcomes publisher') :
    ∀ o ∈ outcomes, Judged p store o.1 o.2.kind := by
  rintro ⟨key, outcome⟩ mem
  obtain ⟨before, ends⟩ := h.of_mem mem
  have step := process_step p store before key
  rw [ends] at step
  exact step.judged

namespace Judged

variable {kind : OutcomeKind} (h : Judged p store key kind)

include h

/-- A key is judged invalid exactly if it holds no submission. -/
theorem invalid_iff : kind = .invalid ↔ (store.submission? p.settings key).isNone = true := by
  cases h with
  | invalid none => simp [none]
  | excluded held _ => simp [held]
  | admitted held _ valid _ => simp [held, valid]

/-- A submission is excluded where a query with the exclusions finds it. -/
theorem excluded_iff : kind = .excluded ↔
    (store.submission? p.settings key).isSome = true ∧
      store.passes p.engine.exclusions key = true := by
  cases h with
  | invalid none => simp [none]
  | excluded held matched =>
    have passes : store.passes p.engine.exclusions key = true := by
      rw [MemoryStore.passes, MemoryStore.record?_eq_some held]
      exact matched
    simp [held, passes]
  | admitted held unmatched _ admitted =>
    have fails : store.passes p.engine.exclusions key = false := by
      rw [MemoryStore.passes, MemoryStore.record?_eq_some held]
      exact unmatched
    simp [fails, admitted]

end Judged

end Pipeline

/-! ## Agreement -/

namespace Report

/-- The keys whose outcome is of a kind, in the order of processing. -/
def keysOfKind (r : Report) (kind : OutcomeKind) : List String :=
  (r.outcomes.filter fun o => o.2.kind = kind).map Prod.fst

/-- The total of a balanced report is the number of its outcomes. -/
theorem Balanced.total_eq_length {r : Report} (h : r.Balanced) :
    r.summary.total = r.outcomes.length := by
  have counters : r.summary.total = r.outcomes.countP (fun o => o.2.kind = .invalid) +
      r.outcomes.countP (fun o => o.2.kind = .excluded) +
      r.outcomes.countP (fun o => o.2.kind = .unrouted) +
      r.outcomes.countP (fun o => o.2.kind = .unlocated) +
      r.outcomes.countP (fun o => o.2.kind = .published) := by
    simp only [← h.byKind]
    exact h.total
  rw [counters]
  -- Each outcome has one of the five kinds.
  induction r.outcomes with
  | nil => rfl
  | cons o _ ih =>
    simp only [List.countP_cons, List.length_cons]
    cases o.2.kind <;> simp <;> omega

end Report

variable {τ : Type} [AttachmentSource τ]

/-- A batch excludes the submissions that a query with the exclusions finds, in the same order.  It
counts the same keys as a sync, and the same keys without a submission, also where the sync
downloads. -/
theorem Pipeline.run_agrees {p : Pipeline} {store : MemoryStore} {publisher publisher' : Publisher}
    {entryPrefix suffix : String} {report : Report}
    (h : p.run store publisher entryPrefix suffix = (.ok report, publisher')) (source : τ) :
    (∃ found, queryStore store entryPrefix suffix p.engine.exclusions = .ok found ∧
      report.keysOfKind .excluded =
        found.filter fun key => (store.submission? p.settings key).isSome) ∧
    ∀ skipDownload, ∃ summary after,
      syncStore (store, source) p.settings entryPrefix suffix skipDownload = (.ok summary, after) ∧
      summary.total = report.summary.total ∧ summary.invalid = report.summary.invalid := by
  obtain ⟨listed, processed, balanced⟩ := run_eq_ok h
  have judged := processed.judged
  constructor
  · refine ⟨_, queryStore_eq_filter listed, ?_⟩
    rw [Report.keysOfKind, List.filter_filter, List.filter_map]
    refine congrArg (List.map Prod.fst) (List.filter_congr fun o mem => ?_)
    simp [(judged o mem).excluded_iff]
  · intro skipDownload
    obtain ⟨keys, visits, after, listed', -, ran⟩ :=
      exists_syncStore p.settings (store, source) entryPrefix suffix skipDownload
    cases listed.symm.trans listed'
    have sums := StoreSyncSummary.sumsUp_plus p.settings store (report.outcomes.map Prod.fst) visits
    refine ⟨_, after, ran, ?_, ?_⟩
    · rw [sums.total, List.length_map, balanced.total_eq_length]
    · rw [sums.invalid, MemoryStore.countInvalid, List.countP_map]
      refine (List.countP_congr fun o mem => ?_).trans (balanced.byKind .invalid).symm
      simp [(judged o mem).invalid_iff]

/-! ## A batch of drafts

Drafts are excluded.  One of them is no submission, which a query finds all the same. -/

/-- The pipeline of the small batch, without drafts. -/
def Pipeline.withoutDrafts : Pipeline :=
  { small with engine :=
      ⟨[⟨[⟨"draft", .equals (.bool true), false⟩], none, none⟩], [], some (.text "surveys")⟩ }

/-- The store of the batch of drafts. -/
def MemoryStore.drafts : MemoryStore :=
  .ofList [("e/1", Utf8.encode "\x7b\"draft\":true\x7d"),
    ("e/2", Utf8.encode ("\x7b\"p\":\"P\",\"s\":2,\"f\":\"F\",\"draft\":true," ++
      "\"a\":\x7b\"q\":\x7b\"i\":\"i.png\"\x7d\x7d\x7d")),
    ("e/3", Utf8.encode ("\x7b\"p\":\"P\",\"s\":3,\"f\":\"F\",\"k\":\"12\"," ++
      "\"a\":\x7b\"q\":\x7b\"i\":\"i.png\"\x7d\x7d\x7d"))]

/-- The report of the batch of drafts. -/
def Report.drafts : Report :=
  ⟨[("e/1", .invalid "missing provider id at 'p'"), ("e/2", .excluded none),
      ("e/3", .published "surveys" "1")],
    { total := 3, invalid := 1, excluded := 1, published := 1 }⟩

theorem Pipeline.run_agrees_drafts :
    (withoutDrafts.run MemoryStore.drafts .empty "e/" "").1 = .ok .drafts ∧
      queryStore MemoryStore.drafts "e/" "" withoutDrafts.engine.exclusions =
        .ok ["e/1", "e/2"] ∧
      Report.drafts.keysOfKind .excluded =
        ["e/1", "e/2"].filter (fun key => (MemoryStore.drafts.submission? .small key).isSome) ∧
      ∀ skipDownload, ∃ summary after,
        syncStore (MemoryStore.drafts, MemorySource.album) .small "e/" "" skipDownload =
          (.ok summary, after) ∧ summary.total = 3 ∧ summary.invalid = 1 := by
  have ends : (withoutDrafts.run MemoryStore.drafts .empty "e/" "").1 = .ok .drafts := by
    decide +kernel
  have run : withoutDrafts.run MemoryStore.drafts .empty "e/" "" =
      (.ok .drafts, (withoutDrafts.run MemoryStore.drafts .empty "e/" "").2) := by
    rw [← ends]
  have found : queryStore MemoryStore.drafts "e/" "" withoutDrafts.engine.exclusions =
      .ok ["e/1", "e/2"] := by decide +kernel
  obtain ⟨⟨keys, found', excluded⟩, synced⟩ := run_agrees run MemorySource.album
  cases found.symm.trans found'
  exact ⟨ends, found, excluded, synced⟩

end SurveyDispatch
