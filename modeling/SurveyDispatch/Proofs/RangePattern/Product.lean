import Mathlib.Data.List.Basic
import SurveyDispatch.Proofs.RangePattern.Expansion

/-!
# The product of the ranges of a pattern

A pattern is taken apart into its ranges and the characters between them (`Range.Parted`).  There is
one way to do so.  A choice of one number for every range fills the pattern, and the choices are
listed in lexicographic order.

The expansion replaces one range after the other and reads the text anew every time.  A bracket that
opens no range could open one later on, when digits have taken the place of a range behind it.  In a
*spaced* pattern this does not happen: a character that stands in no range comes before the next
bracket.  So every part is copied or replaced on its own (`expand_of_not_opens`, `expand_of_opens`).
-/

namespace SurveyDispatch

namespace Range

/-! ## Parts of a pattern -/

/-- A part of a pattern. -/
inductive Part where
  /-- A character that stands for itself. -/
  | plain (c : Char)
  /-- A range with its bounds. -/
  | range (first stop : List Char)
  deriving DecidableEq

/-- The ranges of a text and the characters between them. -/
inductive Parted : List Char → List Part → Prop where
  | nil : Parted [] []
  | plain {c : Char} {rest : List Char} {parts : List Part} : ¬ OpensRange (c :: rest) →
      Parted rest parts → Parted (c :: rest) (.plain c :: parts)
  | range {text first stop after : List Char} {parts : List Part} :
      Opens text first stop after → Parted after parts → Parted text (.range first stop :: parts)

/-- The parts of a text of at most the given length. -/
def partsWithin : Nat → List Char → List Part
  | 0, _ => []
  | _ + 1, [] => []
  | n + 1, c :: rest =>
    match (if c = '[' then ofInside? rest else none) with
    | some r => .range r.first r.stop :: partsWithin n r.after
    | none => .plain c :: partsWithin n rest

theorem Opens.length_after_lt {text first stop after : List Char}
    (h : Opens text first stop after) : after.length < text.length := by
  rw [h.text_eq]
  simp only [List.length_cons, List.length_append]
  omega

/-- A bracket opens one range at most. -/
theorem Opens.inj {text first stop after first' stop' after' : List Char}
    (h : Opens text first stop after) (h' : Opens text first' stop' after') :
    first' = first ∧ stop' = stop ∧ after' = after := by
  have found := find?_of_opens h
  rw [find?_of_opens h'] at found
  cases found
  exact ⟨rfl, rfl, rfl⟩

theorem parted_partsWithin {n : Nat} {text : List Char} (h : text.length ≤ n) :
    Parted text (partsWithin n text) := by
  induction n generalizing text with
  | zero =>
    obtain rfl := List.eq_nil_of_length_eq_zero (Nat.le_zero.mp h)
    exact .nil
  | succ n ih =>
    cases text with
    | nil => exact .nil
    | cons c rest =>
      rw [partsWithin]
      split
      next r found =>
        split at found
        next bracket =>
          subst bracket
          have opens := (ofInside?_eq_some_iff.mp found).2
          have shorter := opens.length_after_lt
          exact .range opens (ih (by omega))
        · cases found
      next missing =>
        refine .plain (fun opens => ?_) (ih (Nat.le_of_succ_le_succ h))
        obtain rfl := opens.eq_bracket
        rw [if_pos rfl] at missing
        rw [opensRange_bracket_iff, missing] at opens
        cases opens

/-- A text has one list of parts. -/
theorem Parted.unique {text : List Char} {parts others : List Part} (h : Parted text parts)
    (h' : Parted text others) : others = parts := by
  induction h generalizing others with
  | nil =>
    cases h' with
    | nil => rfl
    | range opens _ => cases opens.text_eq
  | plain closed _ ih =>
    cases h' with
    | plain _ below => rw [ih below]
    | range opens _ => exact absurd ⟨_, _, _, opens⟩ closed
  | range opens _ ih =>
    cases h' with
    | nil => cases opens.text_eq
    | plain closed _ => exact absurd ⟨_, _, _, opens⟩ closed
    | range opens' below =>
      obtain ⟨rfl, rfl, rfl⟩ := opens.inj opens'
      rw [ih below]

/-! ## Choices of numbers -/

/-- One number for each range among parts. -/
inductive Chosen : List Part → List Nat → Prop where
  | nil : Chosen [] []
  | plain {c : Char} {parts : List Part} {numbers : List Nat} :
      Chosen parts numbers → Chosen (.plain c :: parts) numbers
  | range {first stop : List Char} {parts : List Part} {n : Nat} {numbers : List Nat} :
      Digits.value first ≤ n → n < Digits.value stop → Chosen parts numbers →
      Chosen (.range first stop :: parts) (n :: numbers)

/-- The text of parts with numbers in the places of the ranges. -/
def fill : List Part → List Nat → List Char
  | .plain c :: parts, numbers => c :: fill parts numbers
  | .range first stop :: parts, n :: numbers =>
    Digits.writePadded (min first.length stop.length) n ++ fill parts numbers
  | _, _ => []

/-- All choices of numbers. -/
def choices : List Part → List (List Nat)
  | [] => [[]]
  | .plain _ :: parts => choices parts
  | .range first stop :: parts =>
    (List.range' (Digits.value first) (Digits.value stop - Digits.value first)).flatMap
      fun n => (choices parts).map (n :: ·)

/-- How many numbers a part has.  A range whose upper bound is not above the lower one has none. -/
def Part.count : Part → Nat
  | .plain _ => 1
  | .range first stop => Digits.value stop - Digits.value first

/-- The choices are the sequences of numbers, one for each range. -/
theorem mem_choices_iff {parts : List Part} {numbers : List Nat} :
    numbers ∈ choices parts ↔ Chosen parts numbers := by
  induction parts generalizing numbers with
  | nil =>
    rw [choices, List.mem_singleton]
    constructor
    · rintro rfl
      exact .nil
    · rintro ⟨⟩
      rfl
  | cons part parts ih =>
    cases part with
    | plain c =>
      rw [choices, ih]
      exact ⟨.plain, fun | .plain below => below⟩
    | range first stop =>
      simp only [choices, List.mem_flatMap, List.mem_map, List.mem_range'_1, ih]
      constructor
      · rintro ⟨n, ⟨low, high⟩, below, chosen, rfl⟩
        exact .range low (by omega) chosen
      · rintro (_ | _ | ⟨low, high, chosen⟩)
        exact ⟨_, ⟨low, by omega⟩, _, chosen, rfl⟩

/-- The choices are in lexicographic order, and each of them is listed once. -/
theorem pairwise_choices (parts : List Part) : (choices parts).Pairwise (· < ·) := by
  induction parts with
  | nil => exact List.pairwise_singleton _ _
  | cons part parts ih =>
    cases part with
    | plain c => exact ih
    | range first stop =>
      rw [choices, List.pairwise_flatMap]
      constructor
      · intro n _
        exact List.pairwise_map.mpr (ih.imp List.cons_lt_cons_self.mpr)
      · refine (List.pairwise_lt_range' 1).imp fun {m n} lt => ?_
        intro x hx y hy
        obtain ⟨x, -, rfl⟩ := List.mem_map.mp hx
        obtain ⟨y, -, rfl⟩ := List.mem_map.mp hy
        exact List.cons_lt_cons_iff.mpr (.inl lt)

/-- There are as many choices as the product of what the ranges count. -/
theorem length_choices (parts : List Part) :
    (choices parts).length = (parts.map Part.count).prod := by
  induction parts with
  | nil => rfl
  | cons part parts ih =>
    cases part with
    | plain c => rw [choices, ih, List.map_cons, List.prod_cons, Part.count, Nat.one_mul]
    | range first stop =>
      rw [choices, List.length_flatMap, List.map_cons, List.prod_cons, Part.count, ← ih]
      simp only [List.length_map, List.map_const', List.length_range', List.sum_replicate_nat]

/-! ## Spaced patterns -/

/-- If a bracket opens no range and there is a bracket behind it, then a break comes first. -/
def Spaced (text : List Char) : Prop :=
  ∀ inside, '[' :: inside <:+ text → ¬ OpensRange ('[' :: inside) → '[' ∈ inside →
    ∃ c ∈ inside.takeWhile (· ≠ '['), IsBreak c

theorem Spaced.suffix {text rest : List Char} (h : Spaced text) (suffix : rest <:+ text) :
    Spaced rest := fun inside below => h inside (below.trans suffix)

theorem spaced_nil : Spaced [] := by
  intro inside below
  exact absurd below (by simp)

theorem spaced_cons_iff {c : Char} {rest : List Char} :
    Spaced (c :: rest) ↔
      (c = '[' → (ofInside? rest).isSome = false → '[' ∈ rest →
        ∃ d ∈ rest.takeWhile (· ≠ '['), IsBreak d) ∧ Spaced rest := by
  have closed : ∀ inside, ¬ OpensRange ('[' :: inside) ↔ (ofInside? inside).isSome = false :=
    fun inside => by rw [opensRange_bracket_iff, Bool.not_eq_true]
  simp only [Spaced, closed, List.suffix_cons_iff]
  constructor
  · intro h
    exact ⟨fun bracket => h rest (.inl (bracket ▸ rfl)), fun inside below => h inside (.inr below)⟩
  · rintro ⟨head, tail⟩ inside (eq | below)
    · obtain ⟨rfl, rfl⟩ := List.cons.inj eq
      exact head rfl
    · exact tail inside below

instance : DecidablePred IsBreak := fun _ => inferInstanceAs (Decidable (_ ∧ _))

instance decidableSpaced : (text : List Char) → Decidable (Spaced text)
  | [] => isTrue spaced_nil
  | _ :: rest =>
    have := decidableSpaced rest
    have : Decidable (∃ c ∈ rest.takeWhile (· ≠ '['), IsBreak c) := List.decidableBEx _ _
    decidable_of_iff _ spaced_cons_iff.symm

/-- A bracket that opens no range is inert up to the next bracket if there is a break. -/
theorem inert_bracket {v w : List Char} (brackets : '[' ∉ v) (breaks : ∃ c ∈ v, IsBreak c)
    (closed : ¬ OpensRange ('[' :: (v ++ w))) : Inert ('[' :: v) := by
  have bare : Inert v := inert_of_forall_ne fun c mem eq => brackets (eq ▸ mem)
  intro u
  have closed' : ¬ OpensRange ('[' :: (v ++ u)) := by
    rintro ⟨first, stop, after, opens⟩
    obtain ⟨rest, rfl, -⟩ := opens.eq_append breaks
    refine closed ⟨first, stop, rest ++ w, ?_, opens.first_bound, opens.stop_bound⟩
    simp only [List.append_assoc, List.cons_append]
  rw [List.cons_append, find?_of_not_opens closed', bare u, Option.map_map, behind_behind]
  rfl

end Range

/-! ## Expansion part by part -/

open Range

variable {text first stop after : List Char}

/-- A range at the start is replaced by each of its numbers in front of the rest. -/
theorem expand_of_opens (h : Opens text first stop after) :
    expand text =
      (List.range' (Digits.value first) (Digits.value stop - Digits.value first)).flatMap fun n =>
        (expand after).map (Digits.writePadded (min first.length stop.length) n ++ ·) := by
  rw [expand_of_find?_some (find?_of_opens h)]
  refine congrArg List.flatten (List.map_congr_left fun n _ => ?_)
  exact (inert_writePadded _ n).expand_append after

/-- A character that opens no range is copied. -/
theorem expand_of_not_opens {c : Char} {rest : List Char} (closed : ¬ OpensRange (c :: rest))
    (spaced : Spaced (c :: rest)) : expand (c :: rest) = (expand rest).map (c :: ·) := by
  by_cases bracket : c = '['
  · subst bracket
    by_cases more : '[' ∈ rest
    · -- Both the bracket and the text behind it are inert up to the next bracket.
      have breaks := spaced rest List.suffix_rfl closed more
      have brackets : '[' ∉ rest.takeWhile (· ≠ '[') := fun mem =>
        absurd (List.mem_takeWhile_imp mem) (by decide)
      have split := List.takeWhile_append_dropWhile (p := (· ≠ '[')) (l := rest)
      rw [← split] at closed
      have front := (inert_bracket brackets breaks closed).expand_append (rest.dropWhile (· ≠ '['))
      have bare : Inert (rest.takeWhile (· ≠ '[')) :=
        inert_of_forall_ne fun d mem eq => brackets (eq ▸ mem)
      have back := bare.expand_append (rest.dropWhile (· ≠ '['))
      rw [List.cons_append, split] at front
      rw [split] at back
      rw [front, back, List.map_map]
      rfl
    · have bare : Inert rest := inert_of_forall_ne fun d mem eq => more (eq ▸ mem)
      have none : find? rest = none := by
        have found := bare []
        rwa [List.append_nil] at found
      rw [expand_of_find?_none none, expand_of_find?_none]
      · rfl
      · rw [find?_of_not_opens closed, none, Option.map_none]
  · have inert : Inert [c] := inert_of_forall_ne (by simpa using bracket)
    exact inert.expand_append rest

/-- The parts of a spaced pattern are expanded on their own. -/
theorem expand_of_parted {parts : List Part} (h : Parted text parts) (spaced : Spaced text) :
    expand text = (choices parts).map (fill parts) := by
  induction h with
  | nil => exact expand_of_find?_none rfl
  | plain closed _ ih =>
    rw [expand_of_not_opens closed spaced, ih (spaced.suffix (List.suffix_cons _ _)), List.map_map]
    rfl
  | @range text first stop after parts opens _ ih =>
    have suffix : after <:+ text := by
      refine ⟨'[' :: (first ++ '-' :: (stop ++ [']'])), ?_⟩
      rw [opens.text_eq]
      simp only [List.append_assoc, List.cons_append, List.nil_append]
    rw [expand_of_opens opens, ih (spaced.suffix suffix), choices, List.map_flatMap]
    refine congrArg List.flatten (List.map_congr_left fun n _ => ?_)
    rw [List.map_map, List.map_map]
    rfl

/-- A spaced pattern stands for the product of its ranges: every choice of numbers fills it, and
the choices come in lexicographic order. -/
theorem expandRanges_product (pattern : String) (spaced : Spaced pattern.toList) :
    ∃ parts, (∀ others, Parted pattern.toList others ↔ others = parts) ∧
      (choices parts).Pairwise (· < ·) ∧
      (∀ numbers, numbers ∈ choices parts ↔ Chosen parts numbers) ∧
      expandRanges pattern = (choices parts).map (fun numbers => .ofList (fill parts numbers)) ∧
      (expandRanges pattern).length = (parts.map Part.count).prod := by
  have parted : Parted pattern.toList (partsWithin pattern.toList.length pattern.toList) :=
    parted_partsWithin le_rfl
  have texts := expandRanges_eq pattern
  rw [expand_of_parted parted spaced, List.map_map] at texts
  refine ⟨_, ?_, pairwise_choices _, fun _ => mem_choices_iff, texts, ?_⟩
  · exact fun others => ⟨parted.unique, fun eq => eq ▸ parted⟩
  · rw [texts, List.length_map, length_choices]

/-- Brackets that open no range are copied, and the ranges between them are replaced. -/
theorem expandRanges_product_brackets :
    Spaced "[1-][08-11]/[2-4]".toList ∧
      Parted "[1-][08-11]/[2-4]".toList [.plain '[', .plain '1', .plain '-', .plain ']',
        .range ['0', '8'] ['1', '1'], .plain '/', .range ['2'] ['4']] ∧
      expandRanges "[1-][08-11]/[2-4]" =
        ["[1-]08/2", "[1-]08/3", "[1-]09/2", "[1-]09/3", "[1-]10/2", "[1-]10/3"] := by
  have spaced : Spaced "[1-][08-11]/[2-4]".toList := by decide
  have parted : partsWithin 17 "[1-][08-11]/[2-4]".toList = [.plain '[', .plain '1', .plain '-',
      .plain ']', .range ['0', '8'] ['1', '1'], .plain '/', .range ['2'] ['4']] := by decide
  obtain ⟨parts, only, -, -, texts, -⟩ := expandRanges_product "[1-][08-11]/[2-4]" spaced
  obtain rfl := (only _).mp (parted ▸ parted_partsWithin (by decide))
  exact ⟨spaced, (only _).mpr rfl, texts.trans (by decide)⟩

-- The digits that replace the inner range make up a range with the bracket in front of it.
example : ¬ Spaced "[[1-3]-4]".toList := by decide

end SurveyDispatch
