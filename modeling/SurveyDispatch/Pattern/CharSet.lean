import SurveyDispatch.Text.Blank
import SurveyDispatch.Text.DecimalDigit
import SurveyDispatch.Text.WordCharacter

/-!
# Sets of characters

A set of characters is kept as the ranges of their numbers, in ascending order and with a gap
between one range and the next.  So two sets of the same characters are equal, and the ranges of
the complement are the gaps.

Surrogates are numbers that no character has.  No range of a complement starts or ends with one.
-/

namespace SurveyDispatch

/-- A set of characters. -/
structure CharSet where
  /-- The ranges of their numbers.  Both ends are included. -/
  ranges : List (Nat × Nat)
  deriving DecidableEq, Repr

namespace CharSet

/-- Whether a character is in a set. -/
def contains (s : CharSet) (c : Char) : Bool := Text.inRanges s.ranges c

/-! ## Named sets -/

/-- The set of one character. -/
def single (c : Char) : CharSet := ⟨[(c.toNat, c.toNat)]⟩

/-- The characters between two, both included. -/
def range (low high : Char) : CharSet := ⟨[(low.toNat, high.toNat)]⟩

/-- The decimal digits of all scripts. -/
def digit : CharSet := ⟨Text.decimalDigits⟩

/-- The word characters. -/
def word : CharSet := ⟨Text.wordCharacters⟩

/-- White space. -/
def blank : CharSet := ⟨Text.blanks⟩

/-- A range holds the characters between its ends. -/
theorem contains_range {low high c : Char} :
    (range low high).contains c = true ↔ low ≤ c ∧ c ≤ high := by
  simp only [contains, range, Text.inRanges, List.any_cons, List.any_nil, Bool.or_false,
    Bool.and_eq_true, decide_eq_true_eq]
  rfl

theorem contains_single {c d : Char} : (single d).contains c = true ↔ c = d := by
  have range : (single d).contains c = (range d d).contains c := rfl
  rw [range, contains_range]
  exact ⟨fun h => Char.le_antisymm h.2 h.1, fun h => h ▸ ⟨Char.le_refl c, Char.le_refl c⟩⟩

/-! ## Unions and complements -/

/-- Adds a range to ranges in ascending order.  Ranges that overlap or touch become one. -/
def addRange (low high : Nat) : List (Nat × Nat) → List (Nat × Nat)
  | [] => [(low, high)]
  | (l, h) :: rest =>
    if high + 1 < l then (low, high) :: (l, h) :: rest
    else if h + 1 < low then (l, h) :: addRange low high rest
    else addRange (min low l) (max high h) rest

/-- The characters of at least one of two sets. -/
def union (s t : CharSet) : CharSet :=
  ⟨s.ranges.foldr (fun r ranges => addRange r.1 r.2 ranges) t.ranges⟩

/-- The characters of at least one of the sets. -/
def unions (sets : List CharSet) : CharSet := sets.foldr union ⟨[]⟩

/-- Whether a number is a surrogate. -/
def isSurrogate (n : Nat) : Bool := 0xD800 ≤ n && n ≤ 0xDFFF

/-- The range of the characters between two numbers, both included, if there is one. -/
def gap (low high : Nat) : List (Nat × Nat) :=
  let low := if isSurrogate low then 0xE000 else low
  let high := if isSurrogate high then 0xD7FF else high
  if low ≤ high then [(low, high)] else []

/-- The gaps between ranges in ascending order, from a number on. -/
def gapsFrom (next : Nat) : List (Nat × Nat) → List (Nat × Nat)
  | [] => gap next 0x10FFFF
  | (low, high) :: rest =>
    (if next < low then gap next (low - 1) else []) ++ gapsFrom (high + 1) rest

/-- The characters that are not in a set. -/
def complement (s : CharSet) : CharSet := ⟨gapsFrom 0 s.ranges⟩

/-- All characters but the line feed. -/
def any : CharSet := (single '\n').complement

/-- The number of the only character of a set, if it has just one. -/
def only? (s : CharSet) : Option Nat :=
  match s.ranges with
  | [(low, high)] => if low = high then some low else none
  | _ => none

/-- A dot stands for every character but the line feed. -/
theorem contains_any {c : Char} : any.contains c = true ↔ c ≠ '\n' := by
  have ranges : any.ranges = [(0, 9), (11, 0x10FFFF)] := by decide
  have bound : c.toNat < 0xD800 ∨ 0xDFFF < c.toNat ∧ c.toNat < 0x110000 := c.valid
  have feed : c ≠ '\n' ↔ c.toNat ≠ 10 := not_congr Char.toNat_inj.symm
  rw [feed, contains, ranges]
  simp only [Text.inRanges, List.any_cons, List.any_nil, Bool.or_false, Bool.or_eq_true,
    Bool.and_eq_true, decide_eq_true_eq]
  omega

example : any.ranges = [(0, 9), (0xB, 0x10FFFF)] := by decide
example : (unions [range 'a' 'c', single 'x', range 'b' 'd']).ranges =
    [(0x61, 0x64), (0x78, 0x78)] := by decide
example : (complement ⟨[(0, 0xD7FF)]⟩).ranges = [(0xE000, 0x10FFFF)] := by decide

end CharSet

end SurveyDispatch
