import Mathlib.Logic.Relation
import SurveyDispatch.Proofs.RangePattern.Expansion

/-!
# The end of the expansion

A pattern with a range is expanded by expanding its *replacements*: for every number of the leftmost
range the text that has the number in its place.  A replacement is read anew as a whole, and the
digits can make up a range with the brackets around them that the pattern does not have.

Still every replacement takes fewer bytes (`Range.utf8Len_substitute_lt`).  A number below the upper
bound has no more digits than are written for that bound, whatever its leading zeros, and is padded
to no more than that.  The brackets, the dash and the lower bound have nothing in their place.

So chains of replacements end.  The texts that a pattern stands for are the texts without ranges
that such chains lead to (`mem_expandRanges_iff`), and no text on a chain takes more bytes than the
pattern.
-/

namespace SurveyDispatch

namespace Range

/-! ## Texts without ranges -/

/-- Whether there is a range somewhere in a text. -/
def HasRange (text : List Char) : Prop := ∃ rest, rest <:+ text ∧ OpensRange rest

theorem not_hasRange_nil : ¬ HasRange [] := by
  rintro ⟨rest, below, first, stop, after, opens⟩
  rw [List.suffix_nil.mp below] at opens
  cases opens.text_eq

theorem hasRange_cons_iff {c : Char} {rest : List Char} :
    HasRange (c :: rest) ↔ OpensRange (c :: rest) ∨ HasRange rest := by
  simp only [HasRange, List.suffix_cons_iff]
  constructor
  · rintro ⟨text, rfl | below, opens⟩
    · exact .inl opens
    · exact .inr ⟨text, below, opens⟩
  · rintro (opens | ⟨text, below, opens⟩)
    · exact ⟨c :: rest, .inl rfl, opens⟩
    · exact ⟨text, .inr below, opens⟩

/-- The reader finds a range in every text that has one. -/
theorem find?_eq_none_iff {text : List Char} : find? text = none ↔ ¬ HasRange text := by
  induction text with
  | nil => exact iff_of_true rfl not_hasRange_nil
  | cons c rest ih =>
    rw [hasRange_cons_iff, not_or]
    by_cases opens : OpensRange (c :: rest)
    · obtain ⟨first, stop, after, found⟩ := opens
      rw [find?_of_opens found]
      exact iff_of_false (Option.some_ne_none _) fun closed => closed.1 ⟨first, stop, after, found⟩
    · rw [find?_of_not_opens opens, Option.map_eq_none_iff, ih]
      exact (and_iff_right opens).symm

instance : DecidablePred HasRange := fun text =>
  decidable_of_iff (¬ find? text = none) (by rw [find?_eq_none_iff, not_not])

/-! ## The bytes of a replacement -/

/-- A replacement takes fewer bytes than the text that it is made of. -/
theorem utf8Len_substitute_lt {text : List Char} {r : Range} (h : find? text = some r) {n : Nat}
    (hn : n ∈ r.numbers) : String.utf8Len (r.substitute n) < String.utf8Len text := by
  obtain ⟨rest, rfl, opens⟩ := opens_of_find? h
  have written : (Digits.write n).length ≤ r.stop.length :=
    Digits.length_write_le opens.stop_bound.digits (mem_numbers_iff.mp hn).2
  have padded : String.utf8Len (Digits.writePadded r.width n) ≤ r.stop.length := by
    rw [Digits.utf8Len_of_isDigit fun d mem => Digits.isDigit_of_mem_writePadded mem,
      Digits.length_writePadded]
    exact max_le (min_le_right _ _) written
  have stop : String.utf8Len r.stop = r.stop.length :=
    Digits.utf8Len_of_isDigit opens.stop_bound.digits
  have bracket : '['.utf8Size = 1 := rfl
  rw [substitute, opens.text_eq]
  simp only [String.utf8Len_append, String.utf8Len_cons]
  omega

end Range

open Range

/-! ## Chains of replacements -/

/-- The texts that a pattern is expanded by: one for each number of its leftmost range. -/
def replacements (pattern : String) : List String :=
  match Range.find? pattern.toList with
  | none => []
  | some r => r.numbers.map fun n => .ofList (r.substitute n)

theorem replacements_of_not_hasRange {pattern : String} (h : ¬ HasRange pattern.toList) :
    replacements pattern = [] := by
  rw [replacements, find?_eq_none_iff.mpr h]

theorem expandRanges_of_not_hasRange {pattern : String} (h : ¬ HasRange pattern.toList) :
    expandRanges pattern = [pattern] := by
  rw [expandRanges_eq, expand_of_find?_none (find?_eq_none_iff.mpr h), List.map_singleton,
    String.ofList_toList]

/-- A pattern with a range stands for what its replacements stand for. -/
theorem expandRanges_of_hasRange {pattern : String} (h : HasRange pattern.toList) :
    expandRanges pattern = (replacements pattern).flatMap expandRanges := by
  obtain ⟨r, found⟩ := Option.ne_none_iff_exists'.mp fun none => find?_eq_none_iff.mp none h
  rw [replacements, found, expandRanges_eq, expand_of_find?_some found, List.map_flatMap]
  simp only [List.flatMap_map, expandRanges_eq, String.toList_ofList]

/-- A replacement is shorter, since a number of a range has at most as many digits as its stop. -/
theorem utf8ByteSize_lt_of_mem_replacements {pattern text : String}
    (h : text ∈ replacements pattern) : text.utf8ByteSize < pattern.utf8ByteSize := by
  unfold replacements at h
  split at h
  · cases h
  next r found =>
    obtain ⟨n, mem, rfl⟩ := List.mem_map.mp h
    rw [String.utf8ByteSize_ofList, ← String.utf8Len_toList pattern]
    exact utf8Len_substitute_lt found mem

/-- Every chain of replacements ends. -/
theorem wellFounded_replacements : WellFounded fun next text => next ∈ replacements text :=
  Subrelation.wf utf8ByteSize_lt_of_mem_replacements (measure String.utf8ByteSize).wf

/-- The text is at the end of a chain of replacements. -/
def LeadsTo : String → String → Prop :=
  Relation.ReflTransGen fun text next => next ∈ replacements text

/-- Whatever a pattern leads to is no longer than the pattern. -/
theorem LeadsTo.utf8ByteSize_le {pattern text : String} (h : LeadsTo pattern text) :
    text.utf8ByteSize ≤ pattern.utf8ByteSize := by
  induction h with
  | refl => exact le_rfl
  | tail _ mem ih => exact (utf8ByteSize_lt_of_mem_replacements mem).le.trans ih

/-- A pattern stands for the texts without ranges that replacements lead to. -/
theorem mem_expandRanges_iff {pattern text : String} :
    text ∈ expandRanges pattern ↔ LeadsTo pattern text ∧ ¬ HasRange text.toList := by
  induction pattern using wellFounded_replacements.induction with
  | _ pattern ih =>
    rw [LeadsTo, Relation.ReflTransGen.cases_head_iff]
    by_cases more : HasRange pattern.toList
    · rw [expandRanges_of_hasRange more, List.mem_flatMap]
      constructor
      · rintro ⟨next, mem, last⟩
        obtain ⟨chain, plain⟩ := (ih next mem).mp last
        exact ⟨.inr ⟨next, mem, chain⟩, plain⟩
      · rintro ⟨rfl | ⟨next, mem, chain⟩, plain⟩
        · exact absurd more plain
        · exact ⟨next, mem, (ih next mem).mpr ⟨chain, plain⟩⟩
    · rw [expandRanges_of_not_hasRange more, List.mem_singleton, replacements_of_not_hasRange more]
      constructor
      · rintro rfl
        exact ⟨.inl rfl, more⟩
      · rintro ⟨rfl | ⟨next, mem, -⟩, -⟩
        · rfl
        · cases mem

/-- The expansion goes on with texts that take fewer bytes and so ends.  What it ends with has no
range, stands for itself alone and takes no more bytes than the pattern. -/
theorem expandRanges_ends (pattern : String) :
    expandRanges pattern =
        (if HasRange pattern.toList then (replacements pattern).flatMap expandRanges
          else [pattern]) ∧
      (∀ text ∈ replacements pattern, text.utf8ByteSize < pattern.utf8ByteSize) ∧
      (WellFounded fun next text => next ∈ replacements text) ∧
      ∀ text ∈ expandRanges pattern, ¬ HasRange text.toList ∧ expandRanges text = [text] ∧
        text.utf8ByteSize ≤ pattern.utf8ByteSize := by
  refine ⟨?_, fun _ => utf8ByteSize_lt_of_mem_replacements, wellFounded_replacements, ?_⟩
  · split
    next more => exact expandRanges_of_hasRange more
    next none => exact expandRanges_of_not_hasRange none
  · intro text mem
    obtain ⟨chain, plain⟩ := mem_expandRanges_iff.mp mem
    exact ⟨plain, expandRanges_of_not_hasRange plain, chain.utf8ByteSize_le⟩

/-- The digits that replace the inner range make up a range with the brackets around it, and the
last range has bounds of 21 and 20 digits. -/
theorem expandRanges_ends_nested :
    replacements "[[1-3]-4]é[018446744073709551614-18446744073709551615]" =
        ["[1-4]é[018446744073709551614-18446744073709551615]",
          "[2-4]é[018446744073709551614-18446744073709551615]"] ∧
      "[2-4]é[018446744073709551614-18446744073709551615]".utf8ByteSize <
        "[[1-3]-4]é[018446744073709551614-18446744073709551615]".utf8ByteSize ∧
      expandRanges "[[1-3]-4]é[018446744073709551614-18446744073709551615]" =
        ["1é18446744073709551614", "2é18446744073709551614", "3é18446744073709551614",
          "2é18446744073709551614", "3é18446744073709551614"] ∧
      ¬ HasRange "3é18446744073709551614".toList ∧
      expandRanges "3é18446744073709551614" = ["3é18446744073709551614"] := by
  obtain ⟨-, shorter, -, plain⟩ :=
    expandRanges_ends "[[1-3]-4]é[018446744073709551614-18446744073709551615]"
  have calls : replacements "[[1-3]-4]é[018446744073709551614-18446744073709551615]" =
      ["[1-4]é[018446744073709551614-18446744073709551615]",
        "[2-4]é[018446744073709551614-18446744073709551615]"] := by decide
  have texts : expandRanges "[[1-3]-4]é[018446744073709551614-18446744073709551615]" =
      ["1é18446744073709551614", "2é18446744073709551614", "3é18446744073709551614",
        "2é18446744073709551614", "3é18446744073709551614"] := by decide
  obtain ⟨last, itself, -⟩ := plain "3é18446744073709551614" (by rw [texts]; decide)
  exact ⟨calls, shorter _ (by rw [calls]; decide), texts, last, itself⟩

end SurveyDispatch
