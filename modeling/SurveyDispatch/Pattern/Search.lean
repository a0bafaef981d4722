import SurveyDispatch.Pattern.Program

/-!
# Matching patterns

The threads of a program go through a text side by side.  Before a character is read, every thread
goes on until it reads, and no instruction is gone through twice: a thread that comes to an
instruction where another one has been ends, since the other one is preferred.  A thread that
accepts ends those that are less preferred.  A thread that starts at this character comes last, and
as long as no thread has accepted.

So the work at a character is bounded by the length of the program.
-/

namespace SurveyDispatch.Pattern

/-- Positions that slots keep, the latest first. -/
abbrev Slots := List (Nat × Nat)

/-- A thread. -/
structure Thread where
  /-- The place of its instruction. -/
  place : Nat
  /-- The positions that it has written down. -/
  slots : Slots
  deriving DecidableEq, Repr

/-- The threads when all of them have gone on. -/
structure Round where
  /-- The threads that read, the most preferred first. -/
  readers : List Thread
  /-- The slots of the thread that accepts.  It is less preferred than those that read. -/
  accepted : Option Slots

/-- The threads that one at an instruction turns into without reading, at a position and possibly
at the end of the text. -/
def Instruction.follow (position : Nat) (atEnd : Bool) (slots : Slots) :
    Instruction → List Thread
  | jump next => [⟨next, slots⟩]
  | start next => if position = 0 then [⟨next, slots⟩] else []
  | finish next => if atEnd then [⟨next, slots⟩] else []
  | save slot next => [⟨next, (slot, position) :: slots⟩]
  | split first second => [⟨first, slots⟩, ⟨second, slots⟩]
  | char .. | accept => []

/-- Lets threads go on until they read.  `visited` are the places where a thread has been, and
`readers` are the threads that read, the latest first. -/
def goOn (program : Program) (position : Nat) (atEnd : Bool) :
    Nat → Array Bool → List Thread → List Thread → Round
  | _, _, readers, [] => ⟨readers.reverse, none⟩
  | 0, _, readers, _ => ⟨readers.reverse, none⟩
  | fuel + 1, visited, readers, thread :: rest =>
    if visited.getD thread.place true then goOn program position atEnd fuel visited readers rest
    else
      let visited := visited.setIfInBounds thread.place true
      match program[thread.place]? with
      | none => goOn program position atEnd fuel visited readers rest
      | some (.char ..) => goOn program position atEnd fuel visited (thread :: readers) rest
      | some .accept => ⟨readers.reverse, some thread.slots⟩
      | some instruction =>
        goOn program position atEnd fuel visited readers
          (instruction.follow position atEnd thread.slots ++ rest)

/-- Lets all threads go on.  Every step visits a place or ends a thread, and a thread turns into two
at most. -/
def settle (program : Program) (position : Nat) (atEnd : Bool) (threads : List Thread) : Round :=
  goOn program position atEnd (2 * program.size + threads.length) (.replicate program.size false)
    [] threads

/-- The thread that one turns into by reading a character. -/
def Thread.read? (program : Program) (c : Char) (t : Thread) : Option Thread :=
  match program[t.place]? with
  | some (.char set next) => if set.contains c then some { t with place := next } else none
  | _ => none

/-- The threads of a round, to which one is added as long as none has accepted. -/
def withStart (threads : List Thread) (found : Option Slots) : List Thread :=
  if found.isNone then threads ++ [⟨0, []⟩] else threads

/-- Goes through the rest of a text with threads.  `found` are the slots of the thread that has
accepted, and the threads are preferred to it. -/
def search (program : Program) (position : Nat) (threads : List Thread) (found : Option Slots) :
    List Char → Option Slots
  | [] => (settle program position true (withStart threads found)).accepted.or found
  | c :: rest =>
    let round := settle program position false (withStart threads found)
    let found := round.accepted.or found
    let threads := round.readers.filterMap (Thread.read? program c)
    if threads.isEmpty && found.isSome then found
    else search program (position + 1) threads found rest

/-- What has been captured of a text. -/
structure Captures where
  /-- The text. -/
  text : List Char
  /-- The slots of the match. -/
  slots : Slots

/-- The part that a group has captured, if the match goes through it. -/
def Captures.get? (m : Captures) (index : Nat) : Option (List Char) := do
  let first ← m.slots.lookup (startSlot index)
  let last ← m.slots.lookup (finishSlot index)
  return (m.text.drop first).take (last - first)

/-- What a program captures of a text. -/
def Program.captures? (program : Program) (text : List Char) : Option Captures :=
  (search program 0 [] none text).map (⟨text, ·⟩)

-- A round with characters is preferred to an empty one, which counts where there is no other.
example :
    ((repeated ⟨0, none, true⟩ (group 1 (repeated ⟨0, none, true⟩
      (char (.single 'a'))))).program.captures? ['a', 'a']).bind (·.get? 1) =
        some ['a', 'a'] := by
  decide +kernel

-- The first branch is preferred, and it is left for the other one as the rest does not match.
example :
    ((seq (group 1 (alt (char (.single 'a')) (seq (char (.single 'a')) (char (.single 'a')))))
      finish).program.captures? ['a', 'a']).bind (·.get? 1) = some ['a', 'a'] := by
  decide +kernel

end SurveyDispatch.Pattern
