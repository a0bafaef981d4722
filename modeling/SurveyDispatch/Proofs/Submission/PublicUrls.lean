import SurveyDispatch.Proofs.Store.Keys
import SurveyDispatch.Proofs.Text.FormEncoding
import SurveyDispatch.Submission.Basic

/-!
# Public URLs

The public URL of an attachment has the name of its object as the last part, form encoded.  No
encoding has a slash in it, so the name stays in this part whatever slashes it has
(`Attachment.getLast?_segments_publicUrl`), and it can be read off the URL again
(`Attachment.publicUrl_reversible`).
-/

namespace SurveyDispatch.Attachment

open FormEncoding (encode decode keptInQuery keptInName patch upperDigits)

/-- What all public URLs start with, up to the last slash. -/
def publicFront (s : SubmissionSettings) : String :=
  Text.trimEnd '/' s.publicUrlBase ++ "/" ++ s.storageBucket ++ "/o"

/-- The last part of a public URL. -/
def objectPart (a : Attachment) : String :=
  .ofList (encode keptInName a.storagePath ++ "?alt=media".toList)

variable {s : SubmissionSettings} {a b : Attachment}

theorem publicUrl_eq : a.publicUrl s = publicFront s ++ "/" ++ a.objectPart := by
  refine String.toList_injective ?_
  simp [publicUrl, publicFront, objectPart]

theorem isPart_objectPart (a : Attachment) : IsPart a.objectPart := by
  have name : '/' ∉ encode keptInName a.storagePath :=
    FormEncoding.not_mem_encode (by decide) (by decide) (by decide) (by decide) a.storagePath
  simp [IsPart, objectPart, name]

theorem getLast?_segments_publicUrl :
    (Document.segments (a.publicUrl s)).getLast? = some a.objectPart := by
  rw [publicUrl_eq, segments_slash, segments_of_isPart (isPart_objectPart a),
    List.getLast?_concat]

theorem objectPart_inj : a.objectPart = b.objectPart ↔ a.storagePath = b.storagePath := by
  rw [objectPart, objectPart, String.ofList_inj, List.append_cancel_right_eq,
    FormEncoding.encode_inj FormEncoding.plain_keptInName]

/-- Two attachments share a public URL exactly if they share a storage path. -/
theorem publicUrl_inj : a.publicUrl s = b.publicUrl s ↔ a.storagePath = b.storagePath := by
  rw [← objectPart_inj]
  constructor
  · intro same
    have last := congrArg (fun url => (Document.segments url).getLast?) same
    simp only [getLast?_segments_publicUrl] at last
    exact Option.some.inj last
  · intro same
    rw [publicUrl_eq, publicUrl_eq, same]

/-- The encoding of an object name is that of a query after two replacements.  It is made of few
characters and read back as the name.  So objects have public URLs of their own, in which the last
part has the name. -/
theorem publicUrl_reversible (s : SubmissionSettings) :
    (∀ name,
      patch (encode keptInQuery name) = encode keptInName name ∧
      (∀ c ∈ encode keptInName name,
        c.isAlphanum = true ∨ c ∈ ['-', '.', '_', '~', '+', '%']) ∧
      (∀ front rest, encode keptInName name = front ++ '%' :: rest →
        ∃ high low tail, rest = high :: low :: tail ∧ high ∈ upperDigits ∧ low ∈ upperDigits) ∧
      decode (encode keptInName name) = Utf8.encode name) ∧
    (∀ a b : Attachment, a.publicUrl s = b.publicUrl s ↔ a.storagePath = b.storagePath) ∧
    ∀ a : Attachment, (Document.segments (a.publicUrl s)).getLast? =
      some (.ofList (encode keptInName a.storagePath ++ "?alt=media".toList)) := by
  have plain := FormEncoding.plain_keptInName
  refine ⟨fun name => ⟨FormEncoding.patch_encode name, ?_, FormEncoding.escaping_encode plain name,
    FormEncoding.decode_encode plain name⟩, fun a b => publicUrl_inj,
    fun a => getLast?_segments_publicUrl⟩
  intro c mem
  rcases FormEncoding.of_mem_encode mem with keep | rfl | rfl | digit
  · simp only [keptInName, Bool.or_eq_true, beq_iff_eq] at keep
    rcases keep with (((alphanum | rfl) | rfl) | rfl) | rfl
    · exact .inl alphanum
    all_goals exact .inr (by decide)
  · exact .inr (by decide)
  · exact .inr (by decide)
  · exact .inl (FormEncoding.isAlphanum_of_mem_upperDigits digit)

/-- An attachment whose name looks encoded and has slashes, a star, a tilde and two bytes for one
character. -/
def curious : Attachment := ⟨"page", "field", "%7E/*~ é", ""⟩

theorem publicUrl_reversible_curious :
    patch (encode keptInQuery "%7E/*~ é") = "%257E%2F%2A~+%C3%A9".toList ∧
      decode "%257E%2F%2A~+%C3%A9".toList = Utf8.encode "%7E/*~ é" ∧
      (Document.segments (curious.publicUrl .default)).getLast? =
        some "%257E%2F%2A~+%C3%A9?alt=media" := by
  have encoded : encode keptInName "%7E/*~ é" = "%257E%2F%2A~+%C3%A9".toList := by decide
  obtain ⟨names, -, last⟩ := publicUrl_reversible .default
  obtain ⟨patched, -, -, decoded⟩ := names "%7E/*~ é"
  rw [encoded] at patched decoded
  refine ⟨patched, decoded, ?_⟩
  rw [last curious, curious, encoded]
  rfl

end SurveyDispatch.Attachment
