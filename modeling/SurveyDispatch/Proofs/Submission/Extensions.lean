import Mathlib.Data.List.Forall2
import Mathlib.Data.Nat.PSub
import SurveyDispatch.Proofs.Text.Ends
import SurveyDispatch.Submission.Settings

/-!
# The extensions of file names

A `FileName` has a directory, a stem and an extension.  The values with an extension are the texts
of file names (`SubmissionSettings.extension?_eq_some_iff`), and a text is that of one file name at
most (`FileName.text_injective`).

The extension is found in three scans, for the last slash, for the end of the leading dots and for
the last dot behind them.  `SubmissionSettings.extensionByOffsets?` does so by offsets in bytes.  It
never cuts a text behind its end or inside a character, because what a scan stops at takes one byte.

A value is an attachment if it is the text of a file name whose extension some entry of the list
admits (`SubmissionSettings.Admits`).  The directory does not matter.
-/

namespace SurveyDispatch

/-! ## File names -/

/-- A file name with an extension. -/
@[ext] structure FileName where
  /-- The directory with the slash at its end. -/
  directory : List Char
  /-- The name in front of the last dot. -/
  stem : List Char
  /-- The name behind the last dot. -/
  extension : List Char
  /-- The directory is empty or ends with a slash. -/
  directory_closed : Text.ClosedBy '/' directory
  /-- There is no slash in the stem. -/
  stem_slash : '/' ∉ stem
  /-- The stem is not made of dots only. -/
  stem_named : ∃ c ∈ stem, c ≠ '.'
  /-- There is no slash in the extension. -/
  extension_slash : '/' ∉ extension
  /-- There is no dot in the extension. -/
  extension_dot : '.' ∉ extension

namespace FileName

/-- The text of a file name. -/
def text (f : FileName) : List Char := f.directory ++ (f.stem ++ '.' :: f.extension)

theorem afterLast_slash (f : FileName) :
    Text.afterLast '/' f.text = f.stem ++ '.' :: f.extension := by
  refine Text.afterLast_eq_iff.mpr ⟨?_, f.directory, f.directory_closed, rfl⟩
  rw [List.mem_append, List.mem_cons, not_or, not_or]
  exact ⟨f.stem_slash, by decide, f.extension_slash⟩

theorem afterLast_dot (f : FileName) (front : List Char) :
    Text.afterLast '.' (front ++ '.' :: f.extension) = f.extension := by
  rw [Text.afterLast_behind, Text.afterLast_of_not_mem f.extension_dot]

/-- A text is taken apart in one way. -/
theorem text_injective : Function.Injective text := by
  intro f g eq
  have name : f.stem ++ '.' :: f.extension = g.stem ++ '.' :: g.extension := by
    rw [← f.afterLast_slash, ← g.afterLast_slash, eq]
  have extension : f.extension = g.extension := by
    rw [← f.afterLast_dot f.stem, ← g.afterLast_dot g.stem, name]
  have directory : f.directory = g.directory := by
    rw [text, text, name] at eq
    exact List.append_cancel_right eq
  rw [extension] at name
  exact FileName.ext directory (List.append_cancel_right name) extension

end FileName

namespace SubmissionSettings

/-! ## The extension of a value -/

theorem extension?_text (f : FileName) : extension? f.text = some f.extension := by
  obtain ⟨c, mem, named⟩ := f.stem_named
  have stays : (f.stem.dropWhile (· == '.')).isEmpty = false := by
    rw [List.isEmpty_eq_false_iff, ne_eq, List.dropWhile_eq_nil_iff]
    exact fun dots => named (beq_iff_eq.mp (dots c mem))
  rw [extension?, f.afterLast_slash, List.dropWhile_append, stays, if_neg Bool.false_ne_true,
    f.afterLast_dot, if_pos (by simp)]

/-- A value with an extension is a file name. -/
theorem exists_fileName {value e : List Char} (h : extension? value = some e) :
    ∃ f : FileName, f.text = value ∧ f.extension = e := by
  obtain ⟨directory, closed, whole⟩ := Text.exists_append_afterLast '/' value
  obtain ⟨dots, rest, name, trimmed, start⟩ :=
    Text.exists_append_dropWhile '.' (Text.afterLast '/' value)
  simp only [extension?, trimmed, Option.ite_none_right_eq_some, Option.some.injEq] at h
  obtain ⟨dot, rfl⟩ := h
  obtain ⟨inner, eq⟩ := Text.exists_append_cons_afterLast dot
  have slash : '/' ∉ dots ++ rest := name ▸ Text.not_mem_afterLast
  rw [eq] at slash
  simp only [List.mem_append, List.mem_cons, not_or] at slash
  obtain ⟨dots_slash, inner_slash, -, extension_slash⟩ := slash
  -- Behind the leading dots another character comes first, so the last dot is further behind.
  have named : ∃ c ∈ inner, c ≠ '.' := by
    rw [eq] at start
    cases inner with
    | nil => exact absurd rfl start
    | cons c inner => exact ⟨c, List.mem_cons_self, fun same => start (congrArg some same)⟩
  obtain ⟨c, mem, named⟩ := named
  refine ⟨⟨directory, dots ++ inner, Text.afterLast '.' rest, closed, ?_,
    ⟨c, List.mem_append_right _ mem, named⟩, extension_slash, Text.not_mem_afterLast⟩, ?_, rfl⟩
  · rw [List.mem_append, not_or]
    exact ⟨dots_slash, inner_slash⟩
  · rw [FileName.text, List.append_assoc, ← eq, ← name, ← whole]

/-- The values with an extension are the texts of file names. -/
theorem extension?_eq_some_iff {value e : List Char} :
    extension? value = some e ↔ ∃ f : FileName, f.text = value ∧ f.extension = e := by
  constructor
  · exact exists_fileName
  · rintro ⟨f, rfl, rfl⟩
    exact extension?_text f

/-- The directory of a value does not matter. -/
theorem extension?_behind_slash (front value : List Char) :
    extension? (front ++ '/' :: value) = extension? value := by
  rw [extension?, Text.afterLast_behind, extension?]

/-! ## The scans -/

/-- The extension of a value, found by offsets in bytes.  There is no answer if an offset is
negative or not one that its text can be cut at. -/
def extensionByOffsets? (value : List Char) : Option (Option (List Char)) := do
  let name ← Text.fromByte? value ((Text.lastByte? '/' value).elim 0 (· + 1))
  let start ← Nat.psub (String.utf8Len name) (String.utf8Len (name.dropWhile (· == '.')))
  match Text.lastByte? '.' (← Text.fromByte? name start) with
  | none => return none
  | some dot => return some (← Text.fromByte? name (start + dot + 1))

/-- No slice by byte offsets ever fails, and the slices give the extension. -/
theorem extensionByOffsets?_eq (value : List Char) :
    extensionByOffsets? value = some (extension? value) := by
  have cut := Text.fromByte?_lastByte? (c := '/') rfl value
  obtain ⟨dots, rest, name, trimmed, -⟩ :=
    Text.exists_append_dropWhile '.' (Text.afterLast '/' value)
  have start : Nat.psub (String.utf8Len (dots ++ rest)) (String.utf8Len rest) =
      some (String.utf8Len dots) :=
    Nat.psub_eq_some.mpr (String.utf8Len_append dots rest).symm
  simp only [extensionByOffsets?, extension?, cut, trimmed, Option.bind_eq_bind, Option.bind_some]
  rw [name]
  simp only [start, Option.pure_def, Option.bind_some, Text.fromByte?_append]
  by_cases dot : '.' ∈ rest
  · obtain ⟨inner, eq⟩ := Text.exists_append_cons_afterLast dot
    have found : Text.lastByte? '.' rest = some (String.utf8Len inner) := by
      conv_lhs => rw [eq]
      exact Text.lastByte?_append_cons Text.not_mem_afterLast
    have last : Text.fromByte? (dots ++ rest) (String.utf8Len dots + String.utf8Len inner + 1) =
        some (Text.afterLast '.' rest) := by
      refine Text.fromByte?_eq_some_iff.mpr ⟨dots ++ (inner ++ ['.']), ?_, ?_⟩
      · conv_lhs => rw [eq]
        simp only [List.append_assoc, List.singleton_append]
      · rw [String.utf8Len_append, String.utf8Len_append]
        rfl
    simp only [found, last, if_pos dot, Option.bind_some]
  · simp only [Text.lastByte?_of_not_mem dot, if_neg dot]

end SubmissionSettings

/-! ## The case of letters -/

namespace Text

/-- Two characters are equal or the two cases of a letter of ASCII. -/
def SameLetter (a b : Char) : Prop :=
  a = b ∨ (a.isUpper = true ∧ b.toNat = a.toNat + 32) ∨ (b.isUpper = true ∧ a.toNat = b.toNat + 32)

theorem isUpper_iff_toNat {c : Char} : c.isUpper = true ↔ 65 ≤ c.toNat ∧ c.toNat ≤ 90 := by
  have bounds : c.isUpper = true ↔ 'A'.val ≤ c.val ∧ c.val ≤ 'Z'.val := decide_eq_true_iff
  rw [bounds, UInt32.le_iff_toNat_le, UInt32.le_iff_toNat_le]
  rfl

theorem toNat_toLower (c : Char) :
    c.toLower.toNat = if 65 ≤ c.toNat ∧ c.toNat ≤ 90 then c.toNat + 32 else c.toNat := by
  by_cases upper : c.isUpper = true
  · have bounds := isUpper_iff_toNat.mp upper
    have moved : c.toLower.toNat = (c.val + 32).toNat :=
      congrArg Char.toNat (dif_pos (of_decide_eq_true upper))
    have size : c.val.toNat = c.toNat := rfl
    have step : (32 : UInt32).toNat = 32 := rfl
    rw [if_pos bounds, moved, UInt32.toNat_add, size, step]
    omega
  · have same : c.toLower = c := dif_neg fun bounds => upper (decide_eq_true bounds)
    rw [if_neg (mt isUpper_iff_toNat.mpr upper), same]

/-- Two characters are one in lower case if they are the same letter. -/
theorem toLower_eq_toLower_iff {a b : Char} : a.toLower = b.toLower ↔ SameLetter a b := by
  simp only [SameLetter, ← Char.toNat_inj, toNat_toLower, isUpper_iff_toNat]
  split <;> split <;> omega

/-- What is no letter has one case only. -/
theorem SameLetter.eq_dot {c : Char} (h : SameLetter '.' c) : c = '.' := by
  have dot : '.'.toNat = 46 := rfl
  rcases h with rfl | ⟨upper, -⟩ | ⟨upper, offset⟩
  · rfl
  · cases upper
  · have bounds := isUpper_iff_toNat.mp upper
    omega

end Text

namespace SubmissionSettings

/-! ## Entries of the list -/

/-- An extension is that of an entry, up to the case of letters if the settings say so. -/
def Same (s : SubmissionSettings) (entry e : List Char) : Prop :=
  if s.caseInsensitiveExtensions = true then List.Forall₂ Text.SameLetter entry e else entry = e

/-- An extension is that of an entry, which may have one dot in front. -/
def Admits (s : SubmissionSettings) (entry e : List Char) : Prop :=
  ∃ bare, (entry = bare ∨ entry = '.' :: bare) ∧ s.Same bare e

variable {s : SubmissionSettings} {e : List Char}

/-- The test compares extensions in lower case or as they are. -/
theorem same_iff {entry : List Char} :
    s.Same entry e ↔ (if s.caseInsensitiveExtensions = true then
      entry.map Char.toLower == e.map Char.toLower else entry == e) = true := by
  unfold Same
  split
  · rw [beq_iff_eq, ← List.forall₂_eq_eq_eq, List.forall₂_map_left_iff, List.forall₂_map_right_iff]
    simp only [Text.toLower_eq_toLower_iff]
  · exact beq_iff_eq.symm

theorem not_same_dot {entry : List Char} (dot : '.' ∉ e) : ¬ s.Same ('.' :: entry) e := by
  unfold Same
  split
  · rintro (_ | ⟨same, -⟩)
    exact dot (same.eq_dot ▸ List.mem_cons_self)
  · rintro rfl
    exact dot List.mem_cons_self

/-- An extension without dots is on the list if an entry admits it.  A dot that is left in an entry
keeps it from admitting anything. -/
theorem isListed_iff (dot : '.' ∉ e) :
    s.isListed e = true ↔ ∃ entry ∈ s.imageExtensions, s.Admits entry.toList e := by
  rw [isListed, List.any_eq_true]
  refine exists_congr fun entry => and_congr_right fun _ => ?_
  dsimp only
  rw [← same_iff]
  constructor
  · intro same
    unfold withoutDot at same
    split at same
    next rest eq => exact ⟨rest, .inr eq, same⟩
    next => exact ⟨_, .inl rfl, same⟩
  · rintro ⟨bare, rfl | eq, same⟩
    · unfold withoutDot
      split
      next rest eq =>
        rw [eq] at same
        exact absurd same (not_same_dot dot)
      next => exact same
    · rw [eq]
      exact same

/-! ## The attachment test -/

/-- A value is an attachment exactly if it is the text of a file name whose extension an entry of
the list admits.  There is one file name at most, its extension is found without cutting a text at
a wrong offset, and the directory in front does not matter. -/
theorem attachments_recognised (s : SubmissionSettings) (value : String) :
    (∀ e, extension? value.toList = some e ↔
      ∃ f : FileName, f.text = value.toList ∧ f.extension = e) ∧
      (∀ f g : FileName, f.text = value.toList → g.text = value.toList → f = g) ∧
      extensionByOffsets? value.toList = some (extension? value.toList) ∧
      (s.isAttachment value = true ↔ ∃ f : FileName, f.text = value.toList ∧
        ∃ entry ∈ s.imageExtensions, s.Admits entry.toList f.extension) ∧
      ∀ directory : String, s.isAttachment (directory ++ "/" ++ value) = s.isAttachment value := by
  refine ⟨fun e => extension?_eq_some_iff, fun f g hf hg => ?_, extensionByOffsets?_eq _, ?_, ?_⟩
  · exact FileName.text_injective (hf.trans hg.symm)
  · unfold isAttachment
    constructor
    · intro listed
      split at listed
      next e found =>
        obtain ⟨f, whole, rfl⟩ := exists_fileName found
        exact ⟨f, whole, (isListed_iff f.extension_dot).mp listed⟩
      next => cases listed
    · rintro ⟨f, whole, admitted⟩
      rw [← whole, extension?_text]
      exact (isListed_iff f.extension_dot).mpr admitted
  · intro directory
    have chars : (directory ++ "/" ++ value).toList = directory.toList ++ '/' :: value.toList := by
      rw [String.toList_append, String.toList_append, List.append_assoc]
      rfl
    rw [isAttachment, isAttachment, chars, extension?_behind_slash]

/-- A hidden file in a directory with a dot, with characters of more than one byte. -/
def hiddenPhoto : FileName where
  directory := ['a', '.', 'b', '/', 'é', '/']
  stem := ['.', '.', 'ü', '.', 'v', '2']
  extension := ['J', 'P', 'G']
  directory_closed := .inr ⟨['a', '.', 'b', '/', 'é'], rfl⟩
  stem_slash := by decide
  stem_named := ⟨'v', by decide, by decide⟩
  extension_slash := by decide
  extension_dot := by decide

/-- Settings with an entry without a dot that differs in the case of its letters. -/
def anyCaseSettings : SubmissionSettings where
  imageExtensions := ["..jpg", "jpG"]
  caseInsensitiveExtensions := true

theorem attachments_recognised_hidden :
    hiddenPhoto.text = "a.b/é/..ü.v2.JPG".toList ∧
      (∀ f : FileName, f.text = "a.b/é/..ü.v2.JPG".toList → f = hiddenPhoto) ∧
      extensionByOffsets? "a.b/é/..ü.v2.JPG".toList = some (some "JPG".toList) ∧
      anyCaseSettings.isAttachment "a.b/é/..ü.v2.JPG" = true ∧
      anyCaseSettings.isAttachment ("x.jpg/." ++ "/" ++ "a.b/é/..ü.v2.JPG") = true := by
  have whole : hiddenPhoto.text = "a.b/é/..ü.v2.JPG".toList := by decide
  obtain ⟨extension, unique, offsets, recognised, behind⟩ :=
    attachments_recognised anyCaseSettings "a.b/é/..ü.v2.JPG"
  have found := (extension "JPG".toList).mpr ⟨hiddenPhoto, whole, rfl⟩
  have admitted : anyCaseSettings.Admits "jpG".toList hiddenPhoto.extension :=
    ⟨"jpG".toList, .inl rfl, same_iff.mpr (by decide)⟩
  have attachment := recognised.mpr ⟨hiddenPhoto, whole, "jpG", by decide, admitted⟩
  exact ⟨whole, fun f text => unique f hiddenPhoto text whole, found ▸ offsets, attachment,
    (behind "x.jpg/.").trans attachment⟩

end SubmissionSettings

end SurveyDispatch
