import SurveyDispatch.Pattern.Basic

/-!
# Programs of patterns

A pattern is compiled to a program, whose instructions are found by their places.  A thread goes
from one instruction to the next.  It reads a character, looks where it is, or writes down where it
is.  At a split it goes on in two ways, of which the first is preferred.

The code of a pattern starts at a place and, where the pattern has matched, goes on at another one.
-/

namespace SurveyDispatch.Pattern

/-- An instruction. -/
inductive Instruction where
  /-- Goes on. -/
  | jump (next : Nat)
  /-- Reads a character of a set. -/
  | char (set : CharSet) (next : Nat)
  /-- Goes on at the start of the text. -/
  | start (next : Nat)
  /-- Goes on at the end of the text. -/
  | finish (next : Nat)
  /-- Keeps the position in a slot. -/
  | save (slot next : Nat)
  /-- Goes on in two ways. -/
  | split (first second : Nat)
  /-- The pattern has matched. -/
  | accept
  deriving DecidableEq, Repr

/-- The slot that keeps where a group starts. -/
def startSlot (index : Nat) : Nat := 2 * index

/-- The slot that keeps where a group ends. -/
def finishSlot (index : Nat) : Nat := 2 * index + 1

/-- A split between a round of a repetition and its end. -/
def roundOr (greedy : Bool) (round done : Nat) : Instruction :=
  if greedy then .split round done else .split done round

/-! ## The lengths of codes -/

/-- The number of instructions of a repetition, given the number of those of its body. -/
def repeatedLength (count : Count) (neverEmpty : Bool) (length : Nat) : Nat :=
  match count.most with
  | some most => count.least * length + (most - count.least) * (length + 1) + 1
  | none =>
    if 0 < count.least then count.least * length + 1
    else if neverEmpty then length + 1
    else length + 2

/-- The number of instructions of a pattern. -/
def length : Pattern → Nat
  | empty | start | finish | char _ => 1
  | group _ body => body.length + 2
  | seq p q => p.length + q.length
  | alt p q => p.length + q.length + 1
  | repeated count body => repeatedLength count body.neverEmpty body.length

/-! ## Codes -/

/-- The code of a pattern between the place where it stands and the place where it goes on. -/
abbrev Code := Nat → Nat → List Instruction

/-- Several rounds, one after the other. -/
def rounds (body : Code) (length count here : Nat) : List Instruction :=
  (List.range count).flatMap fun k => body (here + k * length) (here + (k + 1) * length)

/-- Several rounds, before each of which the repetition may end. -/
def optionalRounds (greedy : Bool) (body : Code) (length count here exit : Nat) :
    List Instruction :=
  (List.range count).flatMap fun k =>
    let here := here + k * (length + 1)
    roundOr greedy (here + 1) exit :: body (here + 1) (here + 1 + length)

/-- The code of a repetition, given that of its body.  Where any number of rounds may follow, the
last round of those that have to be is gone through again.  If none has to be, a split comes first.
It is gone through again after a round that took a character for sure.  Otherwise a round is
followed by a split of its own, so that an empty round ends the repetition as a round. -/
def repeatedCode (count : Count) (neverEmpty : Bool) (body : Code) (length here exit : Nat) :
    List Instruction :=
  match count.most with
  | some most =>
    let further := here + count.least * length
    rounds body length count.least here ++
      optionalRounds count.greedy body length (most - count.least) further exit ++ [.jump exit]
  | none =>
    if 0 < count.least then
      rounds body length count.least here ++
        [roundOr count.greedy (here + (count.least - 1) * length) exit]
    else if neverEmpty then
      roundOr count.greedy (here + 1) exit :: body (here + 1) here
    else
      roundOr count.greedy (here + 1) exit ::
        (body (here + 1) (here + 1 + length) ++ [roundOr count.greedy (here + 1) exit])

/-- The code of a pattern. -/
def code : Pattern → Code
  | empty, _, exit => [.jump exit]
  | start, _, exit => [.start exit]
  | finish, _, exit => [.finish exit]
  | char set, _, exit => [.char set exit]
  | group index body, here, exit =>
    .save (startSlot index) (here + 1) ::
      (code body (here + 1) (here + 1 + body.length) ++ [.save (finishSlot index) exit])
  | seq p q, here, exit => code p here (here + p.length) ++ code q (here + p.length) exit
  | alt p q, here, exit =>
    .split (here + 1) (here + 1 + p.length) ::
      (code p (here + 1) exit ++ code q (here + 1 + p.length) exit)
  | repeated count body, here, exit =>
    repeatedCode count body.neverEmpty (code body) body.length here exit

/-- A program.  It starts at its first instruction. -/
abbrev Program := Array Instruction

/-- The program of a pattern. -/
def program (p : Pattern) : Program := (code p 0 p.length ++ [Instruction.accept]).toArray

/-! ## The code of a pattern is as long as it says -/

/-- Rounds that have to be are as long as their bodies. -/
theorem length_rounds {body : Code} {length : Nat}
    (h : ∀ here exit, (body here exit).length = length) (count here : Nat) :
    (rounds body length count here).length = count * length := by
  unfold rounds
  induction count with
  | zero => simp
  | succ n ih =>
    rw [List.range_succ, List.flatMap_append, List.length_append, ih]
    simp [h, Nat.succ_mul]

/-- A round that need not be has one instruction more than its body. -/
theorem length_optionalRounds {body : Code} {length : Nat}
    (h : ∀ here exit, (body here exit).length = length) (greedy : Bool) (count here exit : Nat) :
    (optionalRounds greedy body length count here exit).length = count * (length + 1) := by
  unfold optionalRounds
  induction count with
  | zero => simp
  | succ n ih =>
    rw [List.range_succ, List.flatMap_append, List.length_append, ih]
    simp [h, Nat.succ_mul]

/-- Whichever way a repetition is laid out, its code is as long as it says. -/
theorem length_repeatedCode {body : Code} {length : Nat}
    (h : ∀ here exit, (body here exit).length = length) (count : Count) (neverEmpty : Bool)
    (here exit : Nat) :
    (repeatedCode count neverEmpty body length here exit).length =
      repeatedLength count neverEmpty length := by
  unfold repeatedCode repeatedLength
  cases count.most with
  | some most =>
    rw [List.length_append, List.length_append, length_rounds h, length_optionalRounds h,
      List.length_singleton]
  | none =>
    by_cases hl : 0 < count.least
    · simp [hl, length_rounds h]
    · cases neverEmpty <;> simp [hl, h]

/-- The code of a pattern has the length of the pattern. -/
theorem length_code (p : Pattern) : ∀ here exit, (code p here exit).length = p.length := by
  induction p with
  | empty | start | finish | char set => intros; rfl
  | group index body ih => intros; simp [code, length, ih]
  | seq p q ihp ihq => intros; simp [code, length, ihp, ihq]
  | alt p q ihp ihq => intros; simp [code, length, ihp, ihq]
  | repeated count body ih => intros; exact length_repeatedCode ih ..

end SurveyDispatch.Pattern
