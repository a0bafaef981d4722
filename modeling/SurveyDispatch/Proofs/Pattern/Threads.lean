import SurveyDispatch.Proofs.Pattern.Codes

/-!
# What a search finds

The threads of a search stand for runs of their program.  Letting threads go on and reading a
character add no run (`Thread.Ends`), so what a search finds is what a run from the start of the
program writes down, at some place of the text (`ends_of_search`).  For the program of a pattern
this is what the pattern matches there (`matches_of_captures?`).
-/

namespace SurveyDispatch.Pattern

/-- A thread accepts with slots when it stands before the rest of a text. -/
def Thread.Ends (program : Program) (position : Nat) (rest : List Char) (t : Thread)
    (out : Slots) : Prop :=
  ∃ n, program.Accepts n t.place ⟨position, rest, t.slots⟩ out

variable {program : Program} {position : Nat} {rest : List Char} {out : Slots} {t : Thread}

theorem Thread.ends_of_follow {i : Instruction} {next : Thread}
    (found : program[t.place]? = some i) (mem : next ∈ i.follow position rest.isEmpty t.slots)
    (ends : next.Ends program position rest out) : t.Ends program position rest out := by
  obtain ⟨n, run⟩ := ends
  exact ⟨n + 1, .step (.follow found mem) run⟩

theorem Thread.ends_of_read? {c : Char} {next : Thread} (read : t.read? program c = some next)
    (ends : next.Ends program (position + 1) rest out) :
    t.Ends program position (c :: rest) out := by
  obtain ⟨n, run⟩ := ends
  unfold Thread.read? at read
  split at read
  next set place found =>
    split at read
    next member =>
      cases read
      exact ⟨n + 1, .step (.read found ⟨c, rest, member, rfl, rfl⟩) run⟩
    next => cases read
  next => cases read

/-- When threads have gone on, there is no run that was not there before. -/
theorem ends_of_goOn {fuel : Nat} {visited : Array Bool} {readers threads : List Thread}
    {round : Round} (went : goOn program position rest.isEmpty fuel visited readers threads = round)
    (ends : round.accepted = some out ∨
      ∃ t ∈ round.readers, t.Ends program position rest out) :
    ∃ t ∈ readers ++ threads, t.Ends program position rest out := by
  have old {readers threads : List Thread}
      (ends : (none : Option Slots) = some out ∨
        ∃ t ∈ readers.reverse, t.Ends program position rest out) :
      ∃ t ∈ readers ++ threads, t.Ends program position rest out := by
    rcases ends with ⟨⟨⟩⟩ | ⟨t, mem, ends⟩
    exact ⟨t, List.mem_append_left _ (List.mem_reverse.mp mem), ends⟩
  have later {readers threads : List Thread} {thread : Thread}
      (ends : ∃ t ∈ readers ++ threads, t.Ends program position rest out) :
      ∃ t ∈ readers ++ thread :: threads, t.Ends program position rest out := by
    obtain ⟨t, mem, ends⟩ := ends
    exact ⟨t, (List.sublist_cons_self thread threads).append_left readers |>.subset mem, ends⟩
  subst went
  fun_induction goOn program position rest.isEmpty fuel visited readers threads with
  | case1 => exact old ends
  | case2 => exact old ends
  | case3 fuel visited readers thread threads been ih => exact later (ih ends)
  | case4 fuel visited readers thread threads been visited' found ih => exact later (ih ends)
  | case5 fuel visited readers thread threads been visited' set next found ih =>
    obtain ⟨t, mem, ends⟩ := ih ends
    exact ⟨t, by simpa [or_left_comm] using mem, ends⟩
  | case6 fuel visited readers thread threads been found =>
    rcases ends with accepted | ⟨t, mem, ends⟩
    · cases accepted
      exact ⟨thread, by simp, 0, .accept found⟩
    · exact old (.inr ⟨t, mem, ends⟩)
  | case7 fuel visited readers thread threads been visited' i notChar notAccept found ih =>
    obtain ⟨t, mem, ends⟩ := ih ends
    rw [List.mem_append, List.mem_append] at mem
    rcases mem with mem | mem | mem
    · exact ⟨t, by simp [mem], ends⟩
    · exact ⟨thread, by simp, Thread.ends_of_follow found mem ends⟩
    · exact ⟨t, by simp [mem], ends⟩

/-- Whatever ends after a round was the end of a thread before it. -/
theorem ends_of_settle {threads : List Thread} {round : Round}
    (settled : settle program position rest.isEmpty threads = round)
    (ends : round.accepted = some out ∨
      ∃ t ∈ round.readers, t.Ends program position rest out) :
    ∃ t ∈ threads, t.Ends program position rest out :=
  ends_of_goOn settled ends

/-- A run from the start of the program at some place of a text. -/
def StartEnds (program : Program) (position : Nat) (rest : List Char) (out : Slots) : Prop :=
  ∃ front back, rest = front ++ back ∧
    Thread.Ends program (position + front.length) back ⟨0, []⟩ out

theorem StartEnds.cons {c : Char} (h : StartEnds program (position + 1) rest out) :
    StartEnds program position (c :: rest) out := by
  obtain ⟨front, back, rfl, ends⟩ := h
  refine ⟨c :: front, back, rfl, ?_⟩
  rw [List.length_cons, Nat.add_comm front.length, ← Nat.add_assoc]
  exact ends

theorem ends_of_withStart {threads : List Thread} {found : Option Slots}
    (ends : ∃ t ∈ withStart threads found, t.Ends program position rest out) :
    (∃ t ∈ threads, t.Ends program position rest out) ∨ StartEnds program position rest out := by
  obtain ⟨t, mem, ends⟩ := ends
  unfold withStart at mem
  split at mem
  next =>
    rcases List.mem_append.mp mem with mem | mem
    · exact .inl ⟨t, mem, ends⟩
    · cases List.mem_singleton.mp mem
      exact .inr ⟨[], rest, rfl, ends⟩
  next => exact .inl ⟨t, mem, ends⟩

/-- What a search finds comes from what was found before, from one of its threads, or from a start
at some place. -/
theorem ends_of_search {threads : List Thread} {found : Option Slots}
    (h : search program position threads found rest = some out) :
    found = some out ∨ (∃ t ∈ threads, t.Ends program position rest out) ∨
      StartEnds program position rest out := by
  induction rest generalizing position threads found with
  | nil =>
    rw [search, Option.or_eq_some_iff] at h
    rcases h with accepted | ⟨-, found⟩
    · exact .inr (ends_of_withStart (ends_of_settle rfl (.inl accepted)))
    · exact .inl found
  | cons c rest ih =>
    rw [search] at h
    generalize settled : settle program position false (withStart threads found) = round at h
    have known : round.accepted.or found = some out →
        found = some out ∨ (∃ t ∈ threads, t.Ends program position (c :: rest) out) ∨
          StartEnds program position (c :: rest) out := by
      intro known
      rcases Option.or_eq_some_iff.mp known with accepted | ⟨-, found⟩
      · exact .inr (ends_of_withStart (ends_of_settle settled (.inl accepted)))
      · exact .inl found
    split at h
    next => exact known h
    next =>
      rcases ih h with found' | ⟨t, mem, ends⟩ | start
      · exact known found'
      · obtain ⟨reader, mem, read⟩ := List.mem_filterMap.mp mem
        have ends := Thread.ends_of_read? read ends
        exact .inr (ends_of_withStart (ends_of_settle settled (.inr ⟨reader, mem, ends⟩)))
      · exact .inr (.inr start.cons)

/-- What the program of a pattern captures is what the pattern matches at some place. -/
theorem matches_of_captures? {p : Pattern} {text : List Char} {m : Captures}
    (h : p.program.captures? text = some m) :
    m.text = text ∧ ∃ front back t, text = front ++ back ∧
      Matches p ⟨front.length, back, []⟩ t ∧ t.slots = m.slots := by
  obtain ⟨out, found, rfl⟩ := Option.map_eq_some_iff.mp h
  refine ⟨rfl, ?_⟩
  rcases ends_of_search found with ⟨⟨⟩⟩ | ⟨t, mem, -⟩ | ⟨front, back, split, n, run⟩
  · cases mem
  · rw [Nat.zero_add] at run
    obtain ⟨t, matched, slots⟩ := Program.matches_of_accepts run
    exact ⟨front, back, t, split, matched, slots⟩

end SurveyDispatch.Pattern
