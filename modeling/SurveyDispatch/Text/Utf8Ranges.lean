/-!
# Ranges of characters as ranges of bytes

The characters between two numbers are written by few sequences of ranges of bytes: a character is
written by one byte from each range of a sequence.  Such a range is given by the six bits that the
byte holds, and of the first byte by all its bits.
-/

namespace SurveyDispatch.Text.Utf8Ranges

/-- Ranges of bytes, one after the other. -/
abbrev Bytes := List (Nat × Nat)

/-- The sequences for the numbers between two, whose last digits of six bits each are counted.  What
stands before these digits is one range where the digits take all values. -/
def split : Nat → Nat → Nat → List Bytes
  | 0, low, high => [[(low, high)]]
  | digits + 1, low, high =>
    let size := Nat.pow 64 (digits + 1)
    let (first, last) := (low / size, high / size)
    if first = last then (split digits (low % size) (high % size)).map ((first, first) :: ·)
    else
      let startsFull := low % size == 0
      let endsFull := high % size == size - 1
      let next := if startsFull then first else first + 1
      let stop := if endsFull then last + 1 else last
      (if startsFull then []
        else (split digits (low % size) (size - 1)).map ((first, first) :: ·)) ++
      (if next < stop then [(next, stop - 1) :: .replicate (digits + 1) (0, 63)] else []) ++
      (if endsFull then [] else (split digits 0 (high % size)).map ((last, last) :: ·))

/-- Characters that are written by equally many bytes. -/
structure Block where
  /-- The number of the first one. -/
  low : Nat
  /-- The number of the last one. -/
  high : Nat
  /-- The number of bytes after the first. -/
  digits : Nat
  /-- The first byte for the number zero. -/
  lead : Nat

/-- The blocks of all characters.  Surrogates are left out. -/
def blocks : List Block :=
  [⟨0, 0x7F, 0, 0⟩, ⟨0x80, 0x7FF, 1, 0xC0⟩, ⟨0x800, 0xD7FF, 2, 0xE0⟩, ⟨0xE000, 0xFFFF, 2, 0xE0⟩,
    ⟨0x10000, 0x10FFFF, 3, 0xF0⟩]

/-- Adds to the bounds of the first range. -/
def addToFirst (lead : Nat) : Bytes → Bytes
  | [] => []
  | (low, high) :: rest => (lead + low, lead + high) :: rest

/-- The sequences for the characters between two numbers, in ascending order. -/
def ofRange (low high : Nat) : List Bytes :=
  blocks.flatMap fun b =>
    let (low, high) := (max low b.low, min high b.high)
    if low ≤ high then (split b.digits low high).map (addToFirst b.lead) else []

/-- The sequences for the characters of ranges. -/
def ofRanges (ranges : List (Nat × Nat)) : List Bytes := ranges.flatMap fun r => ofRange r.1 r.2

/-- The number of bytes of a character. -/
def lengthOf (n : Nat) : Nat :=
  if n < 0x80 then 1 else if n < 0x800 then 2 else if n < 0x10000 then 3 else 4

example : ofRange 0x20 0x2FF =
    [[(0x20, 0x7F)], [(0xC2, 0xCB), (0, 63)]] := by decide
example : ofRange 0x3FF 0x400 = [[(0xCF, 0xCF), (63, 63)], [(0xD0, 0xD0), (0, 0)]] := by decide

/-! ## Sharing between sequences

Sequences in ascending order that start alike follow each other.
-/

/-- The sequences in groups that start with the same range. -/
def groups (sequences : List Bytes) : List (List Bytes) :=
  sequences.splitBy fun s t => s.head? == t.head?

/-- What may be left of sequences of bounded length, before their ends. -/
def remainders : Nat → List Bytes → List (List Bytes)
  | 0, _ => []
  | length + 1, sequences =>
    if sequences.all List.isEmpty then []
    else sequences :: (groups sequences).flatMap fun g => remainders length (g.map List.tail)

/-- How many ranges of a sequence come after what it shares with another one. -/
def added : Bytes → Bytes → Nat
  | r :: before, t :: rest => if r = t then added before rest else rest.length + 1
  | [], rest => rest.length
  | _ :: _, [] => 0

/-- How many different ways there are to start sequences, given the one before them. -/
def frontCount (before : Bytes) : List Bytes → Nat
  | [] => 0
  | s :: rest => added before s + frontCount s rest

example : frontCount [] [[(1, 2), (3, 4)], [(1, 2), (5, 6)], [(7, 8)]] = 4 := by decide

end SurveyDispatch.Text.Utf8Ranges
