import Mathlib.Data.List.Basic
import SurveyDispatch.Proofs.RangePattern.Expansion

/-!
# Segments of a pattern

A *separator* is a character that stands in no range, neither inside nor as a bracket.  No range
reaches across it, so the leftmost range of a pattern is in front of it or, if there is none, behind
it (`Range.find?_append_separator`).  This stays so with every replacement in front of it, whatever
ranges the replacements make up.  So the part in front is expanded to the end first, and is inert
from then on.
-/

namespace SurveyDispatch

namespace Range

/-- A character that stands in no range. -/
structure IsSeparator (c : Char) : Prop where
  /-- It is no digit. -/
  digit : c.isDigit = false
  /-- It is no opening bracket. -/
  opening : c ≠ '['
  /-- It is no closing bracket. -/
  closing : c ≠ ']'
  /-- It is no dash. -/
  dash : c ≠ '-'

/-- A range with more text behind it. -/
def followedBy (rest : List Char) (r : Range) : Range := { r with after := r.after ++ rest }

theorem substitute_followedBy (rest : List Char) (r : Range) (n : Nat) :
    (r.followedBy rest).substitute n = r.substitute n ++ rest := by
  simp only [substitute, followedBy, width, List.append_assoc]

variable {c : Char}

/-- A range that opens in front of a separator ends in front of it. -/
theorem opens_append_separator (hc : IsSeparator c) {v w first stop after : List Char} :
    Opens ('[' :: (v ++ c :: w)) first stop after ↔
      ∃ rest, Opens ('[' :: v) first stop rest ∧ after = rest ++ c :: w := by
  constructor
  · intro h
    have split : v ++ c :: w = (v ++ [c]) ++ w := by rw [List.append_assoc]; rfl
    rw [split] at h
    obtain ⟨rest, front, rfl⟩ := h.eq_append ⟨c, by simp, hc.digit, hc.dash⟩
    rcases List.eq_nil_or_concat' rest with rfl | ⟨rest, d, rfl⟩
    · -- The separator would be the closing bracket.
      have last := congrArg List.getLast? front
      simp only [List.getLast?_append, List.getLast?_cons, List.getLast?_nil, Option.getD_none,
        Option.some_or, Option.getD_some, Option.some.injEq] at last
      exact absurd last hc.closing
    · have eq : v ++ [c] = (first ++ '-' :: (stop ++ ']' :: rest)) ++ [d] := by
        rw [front]
        simp only [List.append_assoc, List.cons_append]
      obtain ⟨rfl, last⟩ := List.append_inj' eq rfl
      obtain rfl := List.singleton_inj.mp last
      refine ⟨rest, ⟨rfl, h.first_bound, h.stop_bound⟩, ?_⟩
      rw [List.append_assoc]
      rfl
  · rintro ⟨rest, opens, rfl⟩
    refine ⟨?_, opens.first_bound, opens.stop_bound⟩
    rw [(List.cons.inj opens.text_eq).2]
    simp only [List.append_assoc, List.cons_append]

/-- The leftmost range of a pattern with a separator is in front of it or behind it. -/
theorem find?_append_separator (hc : IsSeparator c) (p q : List Char) :
    find? (p ++ c :: q) =
      ((find? p).map (followedBy (c :: q))).or ((find? q).map (behind (p ++ [c]))) := by
  induction p with
  | nil => exact find?_of_ne hc.opening q
  | cons d p ih =>
    by_cases opens : OpensRange (d :: p)
    · obtain rfl := opens.eq_bracket
      obtain ⟨first, stop, rest, opens⟩ := opens
      have across : Opens ('[' :: (p ++ c :: q)) first stop (rest ++ c :: q) :=
        (opens_append_separator hc).mpr ⟨rest, opens, rfl⟩
      rw [List.cons_append, find?_of_opens across, find?_of_opens opens]
      rfl
    · have across : ¬ OpensRange (d :: (p ++ c :: q)) := by
        intro h
        obtain rfl := h.eq_bracket
        obtain ⟨first, stop, after, h⟩ := h
        obtain ⟨rest, h, -⟩ := (opens_append_separator hc).mp h
        exact opens ⟨first, stop, rest, h⟩
      rw [List.cons_append, find?_of_not_opens across, find?_of_not_opens opens, ih,
        Option.map_or, Option.map_map, Option.map_map, Option.map_map, behind_behind]
      rfl

/-- A text without ranges is inert once a separator follows. -/
theorem inert_append_separator (hc : IsSeparator c) {p : List Char} (h : find? p = none) :
    Inert (p ++ [c]) := by
  intro w
  have split : p ++ [c] ++ w = p ++ c :: w := by rw [List.append_assoc]; rfl
  rw [split, find?_append_separator hc, h, Option.map_none, Option.none_or]

end Range

open Range

variable {c : Char}

/-- Both sides of a separator are expanded on their own. -/
theorem expand_append_separator (hc : IsSeparator c) (p q : List Char) :
    expand (p ++ c :: q) = (expand p).flatMap fun a => (expand q).map fun b => a ++ c :: b := by
  -- Every replacement shortens the side in front.  The side behind is expanded when none is left.
  induction hn : p.length using Nat.strongRecOn generalizing p with
  | ind n ih =>
    cases hp : Range.find? p with
    | none =>
      have split : ∀ w, p ++ [c] ++ w = p ++ c :: w := fun w => by rw [List.append_assoc]; rfl
      have copied := (inert_append_separator hc hp).expand_append q
      rw [expand_of_find?_none hp, List.flatMap_singleton]
      simpa only [split] using copied
    | some r =>
      have found : Range.find? (p ++ c :: q) = some (r.followedBy (c :: q)) := by
        rw [find?_append_separator hc, hp]
        rfl
      rw [expand_of_find?_some found, expand_of_find?_some hp, List.flatMap_assoc]
      refine congrArg List.flatten (List.map_congr_left fun k mem => ?_)
      rw [substitute_followedBy]
      exact ih _ (hn ▸ length_substitute_lt hp mem) _ rfl

/-- A pattern with a separator stands for every text of the part in front with every text of the
part behind. -/
theorem expandRanges_segments (p q : String) (c : Char) (separator : IsSeparator c) :
    expandRanges (p ++ String.singleton c ++ q) =
      (expandRanges p).flatMap fun a =>
        (expandRanges q).map fun b => a ++ String.singleton c ++ b := by
  have chars : (p ++ String.singleton c ++ q).toList = p.toList ++ c :: q.toList := by
    rw [String.toList_append, String.toList_append, String.toList_singleton, List.append_assoc]
    rfl
  have text : ∀ a b : List Char, String.ofList (a ++ c :: b) =
      String.ofList a ++ String.singleton c ++ String.ofList b := by
    intro a b
    apply String.toList_inj.mp
    rw [String.toList_append, String.toList_append, String.toList_singleton, String.toList_ofList,
      String.toList_ofList, String.toList_ofList, List.append_assoc]
    rfl
  rw [expandRanges_eq, expandRanges_eq, expandRanges_eq, chars, expand_append_separator separator,
    List.map_flatMap, List.flatMap_map]
  simp only [List.map_map, Function.comp_def, text]

/-- A replacement in front makes up ranges of its own, and the range behind is not touched. -/
theorem expandRanges_segments_nested :
    IsSeparator '/' ∧ expandRanges "[[1-3]-4]/[09-11]" =
      ["1/09", "1/10", "2/09", "2/10", "3/09", "3/10", "2/09", "2/10", "3/09", "3/10"] := by
  have separator : IsSeparator '/' := ⟨by decide, by decide, by decide, by decide⟩
  refine ⟨separator, ?_⟩
  exact (expandRanges_segments "[[1-3]-4]" "[09-11]" '/' separator).trans (by decide)

end SurveyDispatch
