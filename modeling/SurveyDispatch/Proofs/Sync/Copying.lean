import SurveyDispatch.Proofs.Store.Growth
import SurveyDispatch.Dispatch.Sync

/-!
# Copying attachments

Copying goes through a list of attachments.  Each of them is asked for once.  If the source serves
it, its bytes are put under its storage path, and otherwise nothing is put.  `Copies` is such a run
of steps, and `Copies.copyAttachments_eq` says that the store and the counts come out as the run
says.  All later statements about copying are inductions over `Copies`.

`MemoryStore.lacking` are the attachments to be copied.  A store that is kept in a later one lacks
whatever the later one lacks (`MemoryStore.lacking_lacking`).

A source is *steady* if its answer to a URL is the same each time.  What a steady source does not
serve is still lacking after copying, and nothing else is (`Copies.unserved`).
-/

namespace SurveyDispatch

/-! ## Attachments that are lacking -/

namespace MemoryStore

/-- The attachments whose storage paths are not in the store. -/
def lacking (s : MemoryStore) (as : List Attachment) : List Attachment :=
  as.filter fun a => !s.objects.contains a.storagePath

variable {s t : MemoryStore} {as : List Attachment} {a : Attachment}

theorem mem_lacking_iff :
    a ∈ s.lacking as ↔ a ∈ as ∧ s.objects.contains a.storagePath = false := by
  simp [lacking]

theorem lacking_cons (s : MemoryStore) (a : Attachment) (rest : List Attachment) :
    s.lacking (a :: rest) =
      if s.objects.contains a.storagePath then s.lacking rest else a :: s.lacking rest := by
  rw [lacking, List.filter_cons]
  cases s.objects.contains a.storagePath with
  | true => rfl
  | false => rfl

/-- What a later store lacks was lacking before. -/
theorem lacking_lacking (kept : s.KeptIn t) : t.lacking (s.lacking as) = t.lacking as := by
  rw [lacking, lacking, List.filter_filter]
  refine List.filter_congr fun a _ => ?_
  cases absent : t.objects.contains a.storagePath with
  | true => rfl
  | false => rw [kept.contains_eq_false absent]; rfl

theorem lacking_subset : s.lacking as ⊆ as := List.filter_sublist.subset

/-- A store that has grown lacks no more than before. -/
theorem lacking_sublist (kept : s.KeptIn t) : (t.lacking as).Sublist (s.lacking as) := by
  rw [← lacking_lacking kept]
  exact List.filter_sublist

end MemoryStore

variable {τ : Type}

theorem missingAmong_eq (s : MemoryStore × τ) :
    ∀ as : List Attachment, missingAmong s as = .ok (s.1.lacking as)
  | [] => rfl
  | a :: rest => by
    have asked : ObjectStore.contains s a.storagePath = .ok (s.1.objects.contains a.storagePath) :=
      rfl
    rw [missingAmong, asked, missingAmong_eq s rest, MemoryStore.lacking_cons]
    cases s.1.objects.contains a.storagePath with
    | true => rfl
    | false => rfl

/-! ## Sources -/

variable [AttachmentSource τ]

/-- A source that was asked for URLs one after the other. -/
def askAll (source : τ) (asked : List String) : τ :=
  asked.foldl (fun t url => (AttachmentSource.fetch t url).2) source

theorem askAll_append (source : τ) (asked more : List String) :
    askAll source (asked ++ more) = askAll (askAll source asked) more :=
  List.foldl_append

/-- Whatever it was asked for before, the source serves the same bytes at a URL, or nothing. -/
def Steady (source : τ) (answer : String → Option Bytes) : Prop :=
  ∀ asked url, (AttachmentSource.fetch (askAll source asked) url).1.toOption = answer url

section

variable {source later : τ} {answer : String → Option Bytes} {url : String}

theorem Steady.answer_eq {result : Except StoreFault Bytes} (h : Steady source answer)
    (fetched : AttachmentSource.fetch source url = (result, later)) :
    answer url = result.toOption := by
  rw [← h [] url, askAll, List.foldl_nil, fetched]

theorem Steady.askAll (h : Steady source answer) (asked : List String) :
    Steady (askAll source asked) answer := by
  intro more url
  rw [← askAll_append]
  exact h (asked ++ more) url

/-- A source that is steady stays so, whatever it is asked for. -/
theorem Steady.next {result : Except StoreFault Bytes} (h : Steady source answer)
    (fetched : AttachmentSource.fetch source url = (result, later)) : Steady later answer := by
  have steady := h.askAll [url]
  rwa [SurveyDispatch.askAll, List.foldl_cons, fetched] at steady

end

namespace MemorySource

/-- A source in memory counts what it is asked for, and its files stay. -/
theorem askAll_eq (source : MemorySource) (asked : List String) :
    askAll source asked = ⟨source.files, source.fetches + asked.length⟩ := by
  induction asked generalizing source with
  | nil => rfl
  | cons url rest ih =>
    rw [askAll, List.foldl_cons, List.length_cons, Nat.add_comm rest.length, ← Nat.add_assoc]
    exact ih (AttachmentSource.fetch source url).2

theorem steady (source : MemorySource) : Steady source source.files.get? := by
  intro asked url
  rw [askAll_eq]
  simp only [AttachmentSource.fetch, MemorySource.fetch]
  cases source.files.get? url with
  | none => rfl
  | some bytes => rfl

end MemorySource

/-! ## Runs -/

/-- Attachments are copied one after the other.  The counts are of those that were served and of
those that were not. -/
inductive Copies : MemoryStore × τ → List Attachment → Nat → Nat → MemoryStore × τ → Prop where
  | nil (s : MemoryStore × τ) : Copies s [] 0 0 s
  | served {store : MemoryStore} {source next : τ} {a : Attachment} {bytes : Bytes}
      {rest : List Attachment} {copied failed : Nat} {s' : MemoryStore × τ} :
      AttachmentSource.fetch source a.downloadUrl = (.ok bytes, next) →
      Copies (store.set a.storagePath bytes, next) rest copied failed s' →
      Copies (store, source) (a :: rest) (copied + 1) failed s'
  | refused {store : MemoryStore} {source next : τ} {a : Attachment} {fault : StoreFault}
      {rest : List Attachment} {copied failed : Nat} {s' : MemoryStore × τ} :
      AttachmentSource.fetch source a.downloadUrl = (.error fault, next) →
      Copies (store, next) rest copied failed s' →
      Copies (store, source) (a :: rest) copied (failed + 1) s'

theorem exists_copies : ∀ (as : List Attachment) (s : MemoryStore × τ),
    ∃ copied failed s', Copies s as copied failed s'
  | [], s => ⟨0, 0, s, .nil s⟩
  | a :: rest, (store, source) => by
    cases answered : AttachmentSource.fetch source a.downloadUrl with
    | mk result next =>
      cases result with
      | ok bytes =>
        obtain ⟨copied, failed, s', run⟩ := exists_copies rest (store.set a.storagePath bytes, next)
        exact ⟨copied + 1, failed, s', .served answered run⟩
      | error fault =>
        obtain ⟨copied, failed, s', run⟩ := exists_copies rest (store, next)
        exact ⟨copied, failed + 1, s', .refused answered run⟩

namespace Copies

variable {s s' : MemoryStore × τ} {as : List Attachment} {copied failed : Nat} {key : String}

theorem nil_inv (h : Copies s [] copied failed s') : s' = s ∧ copied = 0 ∧ failed = 0 := by
  cases h
  exact ⟨rfl, rfl, rfl⟩

/-- Copying comes out as the run says, if no storage path is empty. -/
theorem copyAttachments_eq (h : Copies s as copied failed s')
    (named : ∀ a ∈ as, a.storagePath ≠ "") (summary : SyncSummary) :
    copyAttachments s summary as = (.ok { summary with
      copied := summary.copied + copied, failed := summary.failed + failed }, s') := by
  induction h generalizing summary with
  | nil s => rfl
  | @served store source next a bytes rest copied failed s' answered _ ih =>
    obtain ⟨name, named⟩ := List.forall_mem_cons.mp named
    have fetched : AttachmentSource.fetch (store, source) a.downloadUrl =
        (.ok bytes, (store, next)) := by
      simp only [AttachmentSource.fetch] at answered ⊢
      rw [answered]
    have stored : ObjectStore.put (store, next) a.storagePath bytes =
        (.ok (), (store.set a.storagePath bytes, next)) := by
      simp only [ObjectStore.put]
      rw [MemoryStore.put_eq_set name]
    simp only [copyAttachments, fetched, stored, ih named, Nat.add_assoc, Nat.add_comm 1]
  | @refused store source next a fault rest copied failed s' answered _ ih =>
    obtain ⟨-, named⟩ := List.forall_mem_cons.mp named
    have fetched : AttachmentSource.fetch (store, source) a.downloadUrl =
        (.error fault, (store, next)) := by
      simp only [AttachmentSource.fetch] at answered ⊢
      rw [answered]
    simp only [copyAttachments, fetched, ih named, Nat.add_assoc, Nat.add_comm 1]

/-- Each attachment is either served or refused. -/
theorem length (h : Copies s as copied failed s') : copied + failed = as.length := by
  induction h with
  | nil _ => rfl
  | served _ _ ih => rw [List.length_cons, ← ih]; omega
  | refused _ _ ih => rw [List.length_cons, ← ih]; omega

/-- Each attachment is asked for once, in order. -/
theorem source_eq (h : Copies s as copied failed s') :
    s'.2 = askAll s.2 (as.map Attachment.downloadUrl) := by
  induction h with
  | nil _ => rfl
  | served answered _ ih => rw [ih, askAll, askAll, List.map_cons, List.foldl_cons, answered]
  | refused answered _ ih => rw [ih, askAll, askAll, List.map_cons, List.foldl_cons, answered]

/-! ## What becomes of the store -/

/-- Only the storage paths of the attachments are written. -/
theorem get?_of_ne (h : Copies s as copied failed s') (other : ∀ a ∈ as, a.storagePath ≠ key) :
    s'.1.objects.get? key = s.1.objects.get? key := by
  induction h with
  | nil _ => rfl
  | served _ _ ih =>
    obtain ⟨differ, other⟩ := List.forall_mem_cons.mp other
    rw [ih other]
    exact MemoryStore.get?_set_of_ne differ
  | refused _ _ ih => exact ih (List.forall_mem_cons.mp other).2

/-- A store that lacks all of the attachments is kept. -/
theorem keptIn (h : Copies s as copied failed s') {base : MemoryStore}
    (lacks : ∀ a ∈ as, base.objects.contains a.storagePath = false) (kept : base.KeptIn s.1) :
    base.KeptIn s'.1 := by
  induction h with
  | nil _ => exact kept
  | served _ _ ih =>
    obtain ⟨absent, lacks⟩ := List.forall_mem_cons.mp lacks
    exact ih lacks (MemoryStore.keptIn_set kept absent)
  | refused _ _ ih => exact ih (List.forall_mem_cons.mp lacks).2 kept

theorem contains (h : Copies s as copied failed s') (held : s.1.objects.contains key = true) :
    s'.1.objects.contains key = true := by
  induction h with
  | nil _ => exact held
  | @served store _ _ a bytes _ _ _ _ _ _ ih =>
    apply ih
    rw [Dictionary.contains_eq_true_iff, MemoryStore.get?_set]
    split
    · exact ⟨bytes, rfl⟩
    · exact Dictionary.contains_eq_true_iff.mp held
  | refused _ _ ih => exact ih held

/-- What is lacking after copying was refused. -/
theorem lacking_le_failed (h : Copies s as copied failed s') :
    (s'.1.lacking as).length ≤ failed := by
  induction h with
  | nil _ => exact Nat.le_refl 0
  | @served store source next a bytes rest copied failed s' _ run ih =>
    have held : s'.1.objects.contains a.storagePath = true :=
      run.contains (Dictionary.contains_eq_true_iff.mpr ⟨bytes, MemoryStore.get?_set_self⟩)
    rw [MemoryStore.lacking_cons, if_pos held]
    exact ih
  | refused _ _ ih =>
    rw [MemoryStore.lacking_cons]
    split
    · exact Nat.le_succ_of_le ih
    · exact Nat.succ_le_succ ih

end Copies

/-! ## Copying from a steady source -/

/-- The bytes that are served for the attachments with a storage path, in order. -/
def servedAt (answer : String → Option Bytes) (as : List Attachment) (path : String) :
    List Bytes :=
  (as.filter fun a => a.storagePath = path).filterMap fun a => answer a.downloadUrl

theorem servedAt_cons (answer : String → Option Bytes) (a : Attachment) (rest : List Attachment)
    (path : String) : servedAt answer (a :: rest) path =
      (if a.storagePath = path then (answer a.downloadUrl).toList else []) ++
        servedAt answer rest path := by
  by_cases same : a.storagePath = path
  · cases served : answer a.downloadUrl with
    | none => simp [servedAt, same, served]
    | some bytes => simp [servedAt, same, served]
  · simp [servedAt, same]

/-- What is served at a path belongs to an attachment with that path. -/
theorem mem_servedAt_iff {answer : String → Option Bytes} {as : List Attachment} {path : String}
    {bytes : Bytes} : bytes ∈ servedAt answer as path ↔
      ∃ a ∈ as, a.storagePath = path ∧ answer a.downloadUrl = some bytes := by
  simp [servedAt, and_assoc]

namespace Copies

variable {s s' : MemoryStore × τ} {as : List Attachment} {copied failed : Nat}
  {answer : String → Option Bytes}

theorem steady (h : Copies s as copied failed s') (steady : Steady s.2 answer) :
    Steady s'.2 answer := by
  rw [h.source_eq]
  exact steady.askAll _

/-- Of the bytes that are served for a storage path the last ones are stored. -/
theorem get?_eq (h : Copies s as copied failed s') (steady : Steady s.2 answer) (key : String) :
    s'.1.objects.get? key = (servedAt answer as key).getLast?.or (s.1.objects.get? key) := by
  induction h with
  | nil _ => rfl
  | @served store source next a bytes rest copied failed s' answered _ ih =>
    have served : answer a.downloadUrl = some bytes := steady.answer_eq answered
    rw [ih (steady.next answered), MemoryStore.get?_set, servedAt_cons, served]
    by_cases same : a.storagePath = key
    · rw [if_pos same, if_pos same.symm, Option.toList_some, List.getLast?_append,
        List.getLast?_singleton, Option.or_assoc, Option.some_or]
    · rw [if_neg same, if_neg (Ne.symm same), List.nil_append]
  | @refused store source next a fault rest copied failed s' answered _ ih =>
    have refused : answer a.downloadUrl = none := steady.answer_eq answered
    rw [ih (steady.next answered), servedAt_cons, refused, Option.toList_none, ite_self,
      List.nil_append]

/-- What is lacking after copying from a steady source is not served. -/
theorem unserved (h : Copies s as copied failed s') (steady : Steady s.2 answer) {a : Attachment}
    (lacking : a ∈ s'.1.lacking as) : answer a.downloadUrl = none := by
  obtain ⟨mem, absent⟩ := MemoryStore.mem_lacking_iff.mp lacking
  have none : s'.1.objects.get? a.storagePath = none := Dictionary.contains_eq_false_iff.mp absent
  rw [h.get?_eq steady, Option.or_eq_none_iff, List.getLast?_eq_none_iff] at none
  cases served : answer a.downloadUrl with
  | none => rfl
  | some bytes =>
    have found : bytes ∈ servedAt answer as a.storagePath :=
      mem_servedAt_iff.mpr ⟨a, mem, rfl, served⟩
    rw [none.1] at found
    cases found

/-- Copying what is not served changes nothing. -/
theorem of_unserved (h : Copies s as copied failed s') (steady : Steady s.2 answer)
    (unserved : ∀ a ∈ as, answer a.downloadUrl = none) : s'.1 = s.1 ∧ copied = 0 := by
  induction h with
  | nil _ => exact ⟨rfl, rfl⟩
  | served answered _ _ =>
    have served := steady.answer_eq answered
    rw [(List.forall_mem_cons.mp unserved).1] at served
    cases served
  | refused answered _ ih =>
    exact ih (steady.next answered) (List.forall_mem_cons.mp unserved).2

end Copies

end SurveyDispatch
