import SurveyDispatch.Pattern.CharSet

/-!
# Patterns

A pattern describes texts and which of their parts to capture.  It is matched like this: the
leftmost place where it matches counts, and there the first way to match in the order of preference
does.  Of a choice the left branch is preferred.  A greedy repetition prefers one more round, a
lazy one prefers none.

Patterns are put together by `sequence`, `choice` and `repetition`, which make them simpler where
that is possible: they leave out what is empty, make one set of a choice of characters, and say
once what all branches of a choice start with.
-/

namespace SurveyDispatch

/-- How often a repetition goes round. -/
structure Count where
  /-- The least number of rounds. -/
  least : Nat
  /-- The greatest number of rounds, if there is one. -/
  most : Option Nat
  /-- Whether more rounds are preferred. -/
  greedy : Bool
  deriving DecidableEq, Repr

/-- A pattern. -/
inductive Pattern where
  /-- The empty text. -/
  | empty
  /-- The start of the text. -/
  | start
  /-- The end of the text. -/
  | finish
  /-- One character of a set. -/
  | char (set : CharSet)
  /-- A captured part. -/
  | group (index : Nat) (body : Pattern)
  /-- One pattern after the other. -/
  | seq (first second : Pattern)
  /-- One pattern or the other. -/
  | alt (left right : Pattern)
  /-- A pattern so many times. -/
  | repeated (count : Count) (body : Pattern)
  deriving DecidableEq, Repr

namespace Pattern

/-- The highest index of a group. -/
def groupCount : Pattern → Nat
  | group index body => max index body.groupCount
  | seq p q | alt p q => max p.groupCount q.groupCount
  | repeated _ body => body.groupCount
  | empty | start | finish | char _ => 0

/-- Whether a pattern matches no text but the empty one. -/
def onlyEmpty : Pattern → Bool
  | empty | start | finish => true
  | char _ => false
  | group _ body => body.onlyEmpty
  | seq p q | alt p q => p.onlyEmpty && q.onlyEmpty
  | repeated count body => count.most.isSome && body.onlyEmpty

/-- Whether every text that a pattern matches has a character. -/
def neverEmpty : Pattern → Bool
  | empty | start | finish => false
  | char _ => true
  | group _ body => body.neverEmpty
  | seq p q => p.neverEmpty || q.neverEmpty
  | alt p q => p.neverEmpty && q.neverEmpty
  | repeated count body => count.least != 0 && body.neverEmpty

/-! ## Sequences -/

/-- One pattern after the other.  What is empty is left out. -/
def sequence : List Pattern → Pattern
  | [] => empty
  | empty :: rest => sequence rest
  | p :: rest =>
    match sequence rest with
    | empty => p
    | q => seq p q

/-- The patterns that a pattern is a sequence of. -/
def elements : Pattern → List Pattern
  | seq p q => p.elements ++ q.elements
  | empty => []
  | p => [p]

/-- Whether a pattern matches one certain character. -/
def isLiteral : Pattern → Bool
  | char set => set.only?.isSome
  | _ => false

/-- The patterns that a pattern is a sequence of, where certain characters that follow each other
count as one. -/
def chunks (p : Pattern) : List (List Pattern) :=
  p.elements.splitBy fun p q => p.isLiteral && q.isLiteral

/-! ## Choices -/

/-- The set of a pattern that matches one character. -/
def set? : Pattern → Option CharSet
  | char set => some set
  | _ => none

/-- One pattern or the other, in the order of preference.  Of nothing but characters it is one
set. -/
def choiceOf (branches : List Pattern) : Pattern :=
  match branches.mapM set?, branches.reverse with
  | some sets, _ => char (.unions sets)
  | none, [] => empty
  | none, last :: before => before.foldl (fun rest p => alt p rest) last

/-- What two lists start with. -/
def commonFront (xs ys : List (List Pattern)) : List (List Pattern) :=
  ((xs.zip ys).takeWhile fun pair => pair.1 = pair.2).map Prod.fst

/-- What all branches start with, if they are sequences. -/
def sharedFront (rows : List (List (List Pattern))) : List (List Pattern) :=
  match rows with
  | row :: rest => if rows.all (1 < ·.length) then rest.foldl commonFront row else []
  | [] => []

/-- One pattern or the other, in the order of preference.  Where all branches are sequences that
start alike, the choice comes after what they share. -/
def choice : List Pattern → Pattern
  | [p] => p
  | branches =>
    let rows := branches.map chunks
    match sharedFront rows with
    | [] => choiceOf branches
    | front =>
      let ends := rows.map fun row => sequence (row.drop front.length).flatten
      sequence (front.flatten ++ [choiceOf ends])

/-! ## Repetitions -/

/-- A pattern so many times.  What matches nothing but the empty text is not gone through more than
once. -/
def repetition (c : Count) (p : Pattern) : Pattern :=
  let c :=
    if p.onlyEmpty then { c with least := min c.least 1, most := some (min 1 (c.most.getD 1)) }
    else c
  if c.most = some 0 then empty
  else if c.least = 1 ∧ c.most = some 1 then p
  else repeated c p

end Pattern

end SurveyDispatch
