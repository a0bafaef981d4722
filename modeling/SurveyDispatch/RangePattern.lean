import SurveyDispatch.Text.Digits

/-!
# Range patterns

A pattern such as `2023/[01-13]/` stands for several texts, here one per month.  A range is written
`[start-stop]` with two runs of digits below 2^64.  It stands for the numbers from `start` up to but
not including `stop`, each with leading zeros up to the width of the shorter run.  Every other
bracket is plain text.

The leftmost range is replaced first, by each of its numbers in turn.  The resulting text is then
expanded as a whole, so several ranges form a product in which the leftmost varies slowest.  A
replacement has at most as many digits as the upper bound and so is shorter than the range it
replaces.  So the length of the pattern bounds the number of rounds.
-/

namespace SurveyDispatch

/-- A range and the text around it. -/
structure Range where
  /-- The text before the opening bracket. -/
  before : List Char
  /-- The digits of the first number. -/
  first : List Char
  /-- The digits of the number after the last one. -/
  stop : List Char
  /-- The text after the closing bracket. -/
  after : List Char

namespace Range

/-- The width that the numbers are padded to. -/
def width (r : Range) : Nat := min r.first.length r.stop.length

/-- The numbers of the range in ascending order. -/
def numbers (r : Range) : List Nat :=
  List.range' (Digits.value r.first) (Digits.value r.stop - Digits.value r.first)

/-- The text with a number in the place of the range. -/
def substitute (r : Range) (n : Nat) : List Char :=
  r.before ++ Digits.writePadded r.width n ++ r.after

/-- The digits of a bound: a run that is not empty and denotes a number below 2^64. -/
def isBound (digits : List Char) : Bool :=
  !digits.isEmpty && Digits.value digits < 0x10000000000000000

/-- The range whose opening bracket has just been read. -/
def ofInside? (inside : List Char) : Option Range :=
  match Digits.split inside with
  | (first, '-' :: inside) =>
    match Digits.split inside with
    | (stop, ']' :: after) =>
      if isBound first && isBound stop then some ⟨[], first, stop, after⟩ else none
    | _ => none
  | _ => none

/-- The leftmost range of a text. -/
def find? : List Char → Option Range
  | [] => none
  | c :: rest =>
    match (if c = '[' then ofInside? rest else none) with
    | some r => some r
    | none => (find? rest).map fun r => { r with before := c :: r.before }

end Range

/-- The texts that a pattern stands for, after at most the given number of rounds. -/
def expandWithin : Nat → List Char → List (List Char)
  | 0, pattern => [pattern]
  | rounds + 1, pattern =>
    match Range.find? pattern with
    | none => [pattern]
    | some r => r.numbers.flatMap fun n => expandWithin rounds (r.substitute n)

/-- The texts that a pattern stands for. -/
def expandRanges (pattern : String) : List String :=
  (expandWithin pattern.length pattern.toList).map String.ofList

example : expandRanges "a[08-11]" = ["a08", "a09", "a10"] := by decide
example : expandRanges "[1-3]:[1-3]" = ["1:1", "1:2", "2:1", "2:2"] := by decide
example : expandRanges "[x][[1-3]-3]" = ["[x]1", "[x]2", "[x]2"] := by decide
example : expandRanges "[3-1]" = [] := by decide

end SurveyDispatch
