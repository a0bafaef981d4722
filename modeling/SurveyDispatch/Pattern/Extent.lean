import SurveyDispatch.Pattern.Basic
import SurveyDispatch.Text.Utf8Ranges

/-!
# The extent of patterns

A pattern is refused if an automaton that reads the bytes of texts would take too much memory.  The
memory is the sum of what its states take.  There are two automata: one reads forwards and keeps
what groups capture, the other one reads backwards.

A repetition takes as many times what its body does, so the extent is found without going through
the rounds.
-/

namespace SurveyDispatch.Pattern

/-- The way in which an automaton reads. -/
inductive Direction where
  /-- From the start to the end. -/
  | forwards
  /-- From the end to the start. -/
  | backwards
  deriving DecidableEq, Repr

/-- The bytes that a state takes. -/
def stateExtent : Nat := 32

/-- The bytes of a state that leads on by ranges of bytes. -/
def rangesExtent (count : Nat) : Nat := stateExtent + 8 * count

/-- The bytes of a state that leads on in several ways without reading. -/
def splitExtent (count : Nat) : Nat := stateExtent + 4 * count

/-- The bytes for a set of characters.  A certain character takes one state for each of its bytes.
Sets of ASCII characters take one state and an end.  Otherwise states that are left to read the same
are shared forwards, and backwards those that have been reached by the same bytes. -/
def setExtent (d : Direction) (set : CharSet) : Nat :=
  match set.only? with
  | some n => stateExtent * Text.Utf8Ranges.lengthOf n
  | none =>
    if set.ranges.all (·.2 < 0x80) then rangesExtent set.ranges.length + stateExtent
    else
      let sequences := Text.Utf8Ranges.ofRanges set.ranges
      match d with
      | .forwards =>
        let states := (Text.Utf8Ranges.remainders 4 sequences).eraseDups
        states.foldl (fun n s => n + rangesExtent (Text.Utf8Ranges.groups s).length) stateExtent
      | .backwards =>
        splitExtent sequences.length +
          stateExtent * (Text.Utf8Ranges.frontCount [] sequences + 1)

/-- The bytes for a repetition, given those for its body. -/
def repeatedExtent (count : Count) (neverEmpty : Bool) (extent : Nat) : Nat :=
  let required := if count.least = 0 then stateExtent else count.least * extent
  match count.most with
  | some most =>
    if count.least = most then required
    else if count.least = 0 ∧ most = 1 then splitExtent 2 + extent + stateExtent
    else required + (most - count.least) * (splitExtent 2 + extent) + stateExtent
  | none =>
    if 0 < count.least then required + splitExtent 2
    else if neverEmpty then splitExtent 2 + extent
    else 2 * splitExtent 2 + extent + stateExtent

/-- The bytes for a pattern.  The branches of a choice share one split and one end, to which
`inChoice` patterns belong already. -/
def extent (d : Direction) (inChoice : Bool) : Pattern → Nat
  | alt p q =>
    (if inChoice then 0 else splitExtent 0 + stateExtent) + p.extent d true + q.extent d true
  | empty | start | finish => branch + stateExtent
  | char set => branch + setExtent d set
  | group _ body =>
    branch + (match d with | .forwards => 2 * stateExtent | .backwards => 0) + body.extent d false
  | seq p q => branch + p.extent d false + q.extent d false
  | repeated count body => branch + repeatedExtent count body.neverEmpty (body.extent d false)
where
  /-- The bytes for one more way to go on from a split. -/
  branch : Nat := if inChoice then splitExtent 1 - splitExtent 0 else 0

/-- The bytes for what every automaton has: the whole match, its end, and what comes before it. -/
def surroundExtent : Direction → Nat
  | .forwards => 3 * stateExtent + splitExtent 2 + rangesExtent 1 + stateExtent
  | .backwards => stateExtent + splitExtent 2 + rangesExtent 1 + stateExtent

/-- The greatest number of bytes for an automaton. -/
def extentLimit : Nat := 0xA00000

/-- Whether both automata of a pattern are small enough. -/
def fits (p : Pattern) : Bool :=
  [Direction.forwards, .backwards].all fun d => p.extent d false + surroundExtent d ≤ extentLimit

end SurveyDispatch.Pattern
