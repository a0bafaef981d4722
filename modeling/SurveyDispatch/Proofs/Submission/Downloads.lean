import Mathlib.Data.List.DropRight
import SurveyDispatch.Proofs.Store.Components
import SurveyDispatch.Proofs.Submission.Attachments
import SurveyDispatch.Proofs.Submission.Slots

/-!
# Downloads from a mirror

A submission puts a slash and a name behind the base of the download URLs.  A source in a directory
takes the base off again, but first drops the slashes that the base ends in.  These slashes then
stand in front of the name (`FileSystem.fetch_behind_base`).

So without such slashes the source serves what the store in its directory has under the name.  With
them the source asks for a key with a slash at its front, and no object has one
(`Submission.downloads_served`).
-/

namespace SurveyDispatch

namespace Text

variable {s : String} {c : Char}

theorem afterFront?_append (front rest : String) :
    afterFront? (front ++ rest) front = some rest := by
  rw [afterFront?, if_pos (startsWith_append front rest), String.toList_append,
    ← String.length_toList, List.drop_left, String.ofList_toList]

/-- The characters that are trimmed off the end of a text. -/
def trimmedOff (c : Char) (s : String) : String := .ofList (s.toList.rtakeWhile (· == c))

theorem trimEnd_append_trimmedOff (c : Char) (s : String) : trimEnd c s ++ trimmedOff c s = s := by
  refine String.toList_injective ?_
  rw [String.toList_append, trimEnd, trimmedOff, String.toList_ofList, String.toList_ofList]
  exact List.rdropWhile_append_rtakeWhile

theorem toList_trimmedOff (c : Char) (s : String) :
    (trimmedOff c s).toList = List.replicate (trimmedOff c s).length c := by
  refine List.eq_replicate_iff.mpr ⟨String.length_toList, fun d mem => ?_⟩
  rw [trimmedOff, String.toList_ofList] at mem
  exact beq_iff_eq.mp (List.mem_rtakeWhile_imp (p := (· == c)) mem)

/-- Nothing is trimmed off a text that does not end in the character. -/
theorem trimmedOff_eq_empty_iff : trimmedOff c s = "" ↔ s.toList.getLast? ≠ some c := by
  rw [trimmedOff, ← String.toList_inj, String.toList_ofList, String.toList_empty,
    List.rtakeWhile_eq_nil_iff]
  constructor
  · intro other last
    have ne : s.toList ≠ [] := by
      intro empty
      rw [empty] at last
      cases last
    rw [List.getLast?_eq_some_getLast ne] at last
    exact other ne (beq_iff_eq.mpr (Option.some.inj last))
  · intro last ne same
    rw [List.getLast?_eq_some_getLast ne, beq_iff_eq.mp same] at last
    exact last rfl

end Text

open Text (trimEnd trimmedOff)

namespace FileSystem

variable {s : FileSystem} {base root name : String}

/-- The slashes at the end of a base can as well stand behind the slash that follows. -/
theorem base_append_slash (base : String) :
    base ++ "/" = trimEnd '/' base ++ "/" ++ trimmedOff '/' base := by
  have swap : trimmedOff '/' base ++ "/" = "/" ++ trimmedOff '/' base := by
    refine String.toList_injective ?_
    rw [String.toList_append, String.toList_append, Text.toList_trimmedOff, toList_slash,
      ← List.replicate_succ', List.replicate_succ, List.singleton_append]
  rw [String.append_assoc, ← swap, ← String.append_assoc, Text.trimEnd_append_trimmedOff]

/-- A name behind a base is what follows the base without its slashes at the end. -/
theorem nameOf?_behind_base (base name : String) :
    nameOf? base (base ++ "/" ++ name) = some (trimmedOff '/' base ++ name) := by
  rw [nameOf?, base_append_slash, String.append_assoc]
  exact Text.afterFront?_append _ _

/-- A name behind the base is looked up behind the slashes that the base ends in. -/
theorem fetch_behind_base :
    s.fetch base root (base ++ "/" ++ name) = s.getObject root (trimmedOff '/' base ++ name) := by
  rw [fetch, nameOf?_behind_base]

/-- No object has a key that starts with a slash. -/
theorem getObject_slash (key : String) :
    s.getObject root ("/" ++ key) = .error (.invalidKey ("/" ++ key)) := by
  have starts := Text.startsWith_append "/" key
  exact getObject_of_escapes fun below =>
    (isBelowRoot_iff.mp below).1 (head?_segments_eq_empty_iff.mpr (.inr starts))

/-- A key is refused under its own name. -/
theorem eq_of_getObject_eq_invalidKey {key other : String}
    (h : s.getObject root key = .error (.invalidKey other)) : other = key := by
  by_cases below : isBelowRoot key = true
  · rw [getObject, objectPath, if_pos below] at h
    have read : (s.read (join root key)).mapError (·.on key) = .error (.invalidKey other) := h
    cases found : s.read (join root key) with
    | error fault =>
      rw [found] at read
      cases fault <;> cases read
    | ok bytes =>
      rw [found] at read
      cases read
  · rw [getObject_of_escapes below] at h
    cases h
    rfl

/-- Behind a base that ends in a slash nothing is served. -/
theorem fetch_behind_slash (last : base.toList.getLast? = some '/') :
    s.fetch base root (base ++ "/" ++ name) =
      .error (.invalidKey (trimmedOff '/' base ++ name)) := by
  have slashes := Text.toList_trimmedOff '/' base
  obtain ⟨n, length⟩ : ∃ n, (trimmedOff '/' base).length = n + 1 := by
    refine Nat.exists_eq_add_one.mpr (Nat.pos_of_ne_zero fun none => ?_)
    rw [none] at slashes
    exact Text.trimmedOff_eq_empty_iff.mp (String.toList_injective slashes) last
  have front : trimmedOff '/' base = "/" ++ .ofList (List.replicate n '/') := by
    refine String.toList_injective ?_
    rw [slashes, length, String.toList_append, toList_slash, String.toList_ofList]
    rfl
  rw [fetch_behind_base, front, String.append_assoc, getObject_slash]

end FileSystem

/-- The name of a file of a submission in a mirror of the downloads. -/
def Identity.mirrorName (i : Identity) (file : String) : String :=
  s!"{i.providerId}-{i.submissionId}{file}"

/-- A download URL is the base with the name in the mirror behind it. -/
theorem Attachment.downloadUrl_eq_mirrorName {s : SubmissionSettings} {i : Identity}
    {page field file : String} :
    (ofField s i page field file).downloadUrl =
      s.downloadBaseUrl ++ "/" ++ i.mirrorName file := by
  simp only [downloadUrl_ofField, Identity.downloadFront, Identity.mirrorName, ToString.toString,
    String.append_assoc]

namespace Submission

variable {s : SubmissionSettings} {record : Document} {x : Submission}

/-- What a mirror serves for the attachments of a submission: the file with the name of the
attachment, unless the base of the URLs ends in slashes. -/
theorem downloads_served (h : ofRecord s record = .ok x) :
    ∃ pages, record.lookup s.answersPath = some (.record pages) ∧
      (∀ a, a ∈ x.attachments ↔ ∃ page field file, HasText pages page field file ∧
        s.isAttachment file = true ∧ a = .ofField s x.identity page field file) ∧
      ∀ page field file, HasText pages page field file → s.isAttachment file = true →
        ∀ (files : FileSystem) (root : String),
          let url := (Attachment.ofField s x.identity page field file).downloadUrl
          let name := x.identity.mirrorName file
          let source : DirectorySource := ⟨files, root, s.downloadBaseUrl⟩
          let store : DirectoryStore := ⟨files, root⟩
          (AttachmentSource.fetch source url = (ObjectStore.get store name, source) ↔
            s.downloadBaseUrl.toList.getLast? ≠ some '/') ∧
          (s.downloadBaseUrl.toList.getLast? = some '/' →
            AttachmentSource.fetch source url =
              (.error (.invalidKey (trimmedOff '/' s.downloadBaseUrl ++ name)), source)) := by
  obtain ⟨-, -, pages, found, attachments⟩ := ofRecord_eq_ok h
  refine ⟨pages, found, fun a => attachments ▸ mem_attachments_iff, ?_⟩
  intro page field file _ _ files root url name source store
  have served : AttachmentSource.fetch source url =
      (files.fetch s.downloadBaseUrl root (s.downloadBaseUrl ++ "/" ++ name), source) := by
    rw [← Attachment.downloadUrl_eq_mirrorName]
    rfl
  rw [served]
  refine ⟨⟨fun same last => ?_, fun last => ?_⟩, fun last => ?_⟩
  · rw [FileSystem.fetch_behind_slash last] at same
    have unnamed := FileSystem.eq_of_getObject_eq_invalidKey (congrArg Prod.fst same).symm
    exact Text.trimmedOff_eq_empty_iff.mp (String.append_eq_right_iff.mp unnamed) last
  · rw [FileSystem.fetch_behind_base, Text.trimmedOff_eq_empty_iff.mpr last, String.empty_append]
    rfl
  · rw [FileSystem.fetch_behind_slash last]

/-- A submission with an image. -/
def photographed : Document :=
  .record [("ProviderId", .text "acme"), ("Entry", .record [("DsRowId", .text "1"),
    ("FormCode", .text "F"), ("AnswersJson", .record [("page", .record [
      ("front", .text "front.jpg")])])])]

/-- Settings whose base ends in a slash. -/
def slashedSettings : SubmissionSettings := { downloadBaseUrl := "https://d/files/" }

/-- A directory with the image. -/
def photographs : FileSystem where
  root := .directory [("mirror", .directory [("acme-1front.jpg", .file [70, 79])])]
  here := []

theorem downloads_served_behind_slash :
    ∃ x, ofRecord slashedSettings photographed = .ok x ∧
      x.attachments.map (·.downloadUrl) = ["https://d/files//acme-1front.jpg"] ∧
      photographs.getObject "mirror" "acme-1front.jpg" = .ok [70, 79] ∧
      photographs.fetch slashedSettings.downloadBaseUrl "mirror"
        "https://d/files//acme-1front.jpg" = .error (.invalidKey "/acme-1front.jpg") := by
  obtain ⟨x, made, identity, urls⟩ : ∃ x, ofRecord slashedSettings photographed = .ok x ∧
      x.identity = ⟨"acme", "1", "F"⟩ ∧
      x.attachments.map (·.downloadUrl) = ["https://d/files//acme-1front.jpg"] :=
    ⟨_, rfl, rfl, rfl⟩
  refine ⟨x, made, urls, by decide, ?_⟩
  obtain ⟨pages, found, -, served⟩ := downloads_served made
  cases found
  rw [identity] at served
  have refused := congrArg Prod.fst ((served "page" "front" "front.jpg"
    ⟨_, List.mem_cons_self, List.mem_cons_self⟩ (by decide) photographs "mirror").2 (by decide))
  have url : (Attachment.ofField slashedSettings ⟨"acme", "1", "F"⟩ "page" "front"
      "front.jpg").downloadUrl = "https://d/files//acme-1front.jpg" := by decide
  have name : trimmedOff '/' slashedSettings.downloadBaseUrl ++
      Identity.mirrorName ⟨"acme", "1", "F"⟩ "front.jpg" = "/acme-1front.jpg" := by decide
  rw [url, name] at refused
  exact refused

end Submission

end SurveyDispatch
