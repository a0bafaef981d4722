import SurveyDispatch.Proofs.Pattern.Codes

/-!
# Places from which a thread can accept

A place of a program is viable in front of a text if a thread that stands there can come to an
accepting instruction (`Program.Viable`).  What the thread has written down makes no difference.

The code of a pattern carries this back over everything that the pattern matches: if the exit of the
code is viable behind a match, its start is viable in front of it (`carries_code`).  This is the
converse of `leads_code`.  It needs no count of steps, since every round of a loop is one that the
match already has.
-/

namespace SurveyDispatch.Pattern

/-! ## Rounds from either end -/

variable {r : State → State → Prop} {s t : State}

theorem exists_of_times_add {m n : Nat} (rounds : Times r (m + n) s t) :
    ∃ u, Times r m s u ∧ Times r n u t := by
  induction m generalizing s with
  | zero =>
    rw [Nat.zero_add] at rounds
    exact ⟨s, rfl, rounds⟩
  | succ m ih =>
    rw [Nat.succ_add] at rounds
    obtain ⟨v, round, more⟩ := rounds
    obtain ⟨u, first, second⟩ := ih more
    exact ⟨u, ⟨v, round, first⟩, second⟩

/-- The last round and those before it. -/
theorem exists_of_times_succ {n : Nat} (rounds : Times r (n + 1) s t) :
    ∃ u, Times r n s u ∧ r u t := by
  obtain ⟨u, before, last⟩ := exists_of_times_add rounds
  exact ⟨u, before, times_one_iff.mp last⟩

namespace Program

variable {program : Program} {place next here exit position : Nat} {rest : List Char}

/-! ## Viable places -/

/-- A thread at a place can accept in front of a text. -/
inductive Viable (program : Program) : Nat → Nat → List Char → Prop where
  /-- It stands at an accepting instruction. -/
  | accept {place position : Nat} {rest : List Char} (found : program[place]? = some .accept) :
      Viable program place position rest
  /-- It can accept when it has gone on. -/
  | follow {place position : Nat} {rest : List Char} {i : Instruction} {t : Thread} {slots : Slots}
      (found : program[place]? = some i) (mem : t ∈ i.follow position rest.isEmpty slots)
      (viable : Viable program t.place position rest) : Viable program place position rest
  /-- It can accept when it has read a character. -/
  | read {place next position : Nat} {c : Char} {rest : List Char} {set : CharSet}
      (found : program[place]? = some (.char set next)) (member : set.contains c = true)
      (viable : Viable program next (position + 1) rest) :
      Viable program place position (c :: rest)

namespace Viable

/-- Where a thread goes on does not depend on its slots. -/
theorem ahead {i : Instruction} {t : Thread} (h : program.Viable t.place position rest)
    (found : program[place]? = some i) (mem : t ∈ i.follow position rest.isEmpty []) :
    program.Viable place position rest := .follow found mem h

theorem jump (h : program.Viable next position rest)
    (found : program[place]? = some (.jump next)) : program.Viable place position rest :=
  h.ahead (t := ⟨next, []⟩) found (List.mem_singleton_self _)

theorem start (h : program.Viable next position rest)
    (found : program[place]? = some (.start next)) (atStart : position = 0) :
    program.Viable place position rest := by
  refine h.ahead (t := ⟨next, []⟩) found ?_
  rw [Instruction.follow, if_pos atStart]
  exact List.mem_singleton_self _

theorem finish (h : program.Viable next position rest)
    (found : program[place]? = some (.finish next)) (atEnd : rest = []) :
    program.Viable place position rest := by
  refine h.ahead (t := ⟨next, []⟩) found ?_
  rw [Instruction.follow, if_pos (List.isEmpty_iff.mpr atEnd)]
  exact List.mem_singleton_self _

theorem save {slot : Nat} (h : program.Viable next position rest)
    (found : program[place]? = some (.save slot next)) : program.Viable place position rest :=
  h.ahead (t := ⟨next, [(slot, position)]⟩) found (List.mem_singleton_self _)

theorem split {first second : Nat} (found : program[place]? = some (.split first second))
    (h : program.Viable first position rest ∨ program.Viable second position rest) :
    program.Viable place position rest := by
  rcases h with left | right
  · exact left.ahead (t := ⟨first, []⟩) found (by simp [Instruction.follow])
  · exact right.ahead (t := ⟨second, []⟩) found (by simp [Instruction.follow])

theorem roundOr {greedy : Bool} {round done : Nat}
    (found : program[place]? = some (roundOr greedy round done))
    (h : program.Viable round position rest ∨ program.Viable done position rest) :
    program.Viable place position rest := by
  cases greedy with
  | true => exact split found h
  | false => exact split found h.symm

end Viable

/-- Whatever is related to a state at an exit that is viable is at a viable place. -/
def Carries (program : Program) (r : State → State → Prop) (here exit : Nat) : Prop :=
  ∀ ⦃s t⦄, r s t → program.Viable exit t.position t.rest → program.Viable here s.position s.rest

variable {body : Code} {length : Nat}

/-! ## Rounds of repetitions -/

/-- A loop carries on after any number of rounds, by induction on how many there are. -/
theorem carries_loop {greedy : Bool} {round : Nat}
    (found : program[here]? = some (roundOr greedy round exit))
    (carries : program.Carries r round here) :
    program.Carries (fun s t => ∃ n, Times r n s t) here exit := by
  rintro s t ⟨n, rounds⟩ viable
  induction n generalizing s with
  | zero =>
    cases rounds
    exact .roundOr found (.inr viable)
  | succ n ih =>
    obtain ⟨u, round, more⟩ := rounds
    exact .roundOr found (.inl (carries round (ih more)))

/-- Rounds that have to be carry on one after the other. -/
theorem carries_rounds {count : Nat} (lengths : ∀ here exit, (body here exit).length = length)
    (carries : ∀ here exit, program.Holds here (body here exit) → program.Carries r here exit)
    (holds : program.Holds here (rounds body length count here)) :
    program.Carries (Times r count) here (here + count * length) := by
  induction count with
  | zero =>
    rintro s _ rfl viable
    rwa [Nat.zero_mul] at viable
  | succ count ih =>
    intro s t rounds viable
    rw [rounds_succ, holds_append_iff, length_rounds lengths] at holds
    obtain ⟨front, last⟩ := holds
    obtain ⟨u, before, round⟩ := exists_of_times_succ rounds
    exact ih front before (carries _ _ last round viable)

/-- All rounds that may be lead to the end of their code. -/
theorem carries_allRounds {greedy : Bool} {count : Nat}
    (lengths : ∀ here exit, (body here exit).length = length)
    (carries : ∀ here exit, program.Holds here (body here exit) → program.Carries r here exit)
    (holds : program.Holds here (optionalRounds greedy body length count here exit)) :
    program.Carries (Times r count) here (here + count * (length + 1)) := by
  induction count with
  | zero =>
    rintro s _ rfl viable
    rwa [Nat.zero_mul] at viable
  | succ count ih =>
    intro s t rounds viable
    rw [optionalRounds_succ, holds_append_iff, length_optionalRounds lengths,
      holds_cons_iff] at holds
    obtain ⟨front, fork, last⟩ := holds
    obtain ⟨u, before, round⟩ := exists_of_times_succ rounds
    have behind : here + (count + 1) * (length + 1) = here + count * (length + 1) + 1 + length := by
      rw [Nat.succ_mul]
      omega
    rw [behind] at viable
    exact ih front before (.roundOr fork (.inl (carries _ _ last round viable)))

/-- Some of the rounds that may be lead to the exit, if the end of their code leads there. -/
theorem carries_someRounds {greedy : Bool} {count : Nat}
    (lengths : ∀ here exit, (body here exit).length = length)
    (carries : ∀ here exit, program.Holds here (body here exit) → program.Carries r here exit)
    (holds : program.Holds here (optionalRounds greedy body length count here exit))
    (leaves : program.Carries Eq (here + count * (length + 1)) exit) :
    program.Carries (fun s t => ∃ k ≤ count, Times r k s t) here exit := by
  induction count with
  | zero =>
    rintro s t ⟨k, le, rounds⟩ viable
    cases Nat.le_zero.mp le
    cases rounds
    rw [Nat.zero_mul] at leaves
    exact leaves rfl viable
  | succ count ih =>
    rintro s t ⟨k, le, rounds⟩ viable
    rcases Nat.lt_or_eq_of_le le with lt | rfl
    · rw [optionalRounds_succ, holds_append_iff, length_optionalRounds lengths,
        holds_cons_iff] at holds
      obtain ⟨front, fork, -⟩ := holds
      refine ih front ?_ ⟨k, Nat.lt_succ_iff.mp lt, rounds⟩ viable
      rintro s _ rfl viable
      exact .roundOr fork (.inr viable)
    · exact carries_allRounds lengths carries holds rounds (leaves rfl viable)

/-! ## The code of a pattern -/

/-- A bounded repetition carries on after any number of rounds that it allows. -/
theorem carries_bounded {greedy : Bool} {least further : Nat}
    (lengths : ∀ here exit, (body here exit).length = length)
    (carries : ∀ here exit, program.Holds here (body here exit) → program.Carries r here exit)
    (holds : program.Holds here (rounds body length least here ++
      optionalRounds greedy body length further (here + least * length) exit ++ [.jump exit])) :
    program.Carries (fun s t => ∃ k ≤ further, Times r (least + k) s t) here exit := by
  rintro s t ⟨k, le, rounds⟩ viable
  rw [holds_append_iff, holds_append_iff, length_rounds lengths, List.length_append,
    length_rounds lengths, length_optionalRounds lengths, ← Nat.add_assoc, holds_cons_iff] at holds
  obtain ⟨⟨required, optional⟩, jump, -⟩ := holds
  obtain ⟨u, first, second⟩ := exists_of_times_add rounds
  have leaves : program.Carries Eq (here + least * length + further * (length + 1)) exit := by
    rintro s _ rfl viable
    exact viable.jump jump
  exact carries_rounds lengths carries required first
    (carries_someRounds lengths carries optional leaves ⟨k, le, second⟩ viable)

theorem carries_required {greedy : Bool} {before : Nat}
    (lengths : ∀ here exit, (body here exit).length = length)
    (carries : ∀ here exit, program.Holds here (body here exit) → program.Carries r here exit)
    (holds : program.Holds here (rounds body length (before + 1) here ++
      [roundOr greedy (here + before * length) exit])) :
    program.Carries (fun s t => ∃ k, Times r (before + 1 + k) s t) here exit := by
  rintro s t ⟨k, rounds⟩ viable
  rw [holds_append_iff, length_rounds lengths, holds_cons_iff] at holds
  obtain ⟨required, fork, -⟩ := holds
  obtain ⟨u, first, second⟩ := exists_of_times_add rounds
  refine carries_rounds lengths carries required first ?_
  rw [rounds_succ, holds_append_iff, length_rounds lengths] at required
  exact carries_loop fork (carries _ _ required.2) ⟨k, second⟩ viable

theorem carries_any {greedy : Bool} (lengths : ∀ here exit, (body here exit).length = length)
    (carries : ∀ here exit, program.Holds here (body here exit) → program.Carries r here exit)
    (holds : program.Holds here (roundOr greedy (here + 1) exit ::
      (body (here + 1) (here + 1 + length) ++ [roundOr greedy (here + 1) exit]))) :
    program.Carries (fun s t => ∃ k, Times r k s t) here exit := by
  rintro s t ⟨k, rounds⟩ viable
  rw [holds_cons_iff, holds_append_iff, lengths, holds_cons_iff] at holds
  obtain ⟨entry, first, fork, -⟩ := holds
  cases k with
  | zero =>
    cases rounds
    exact .roundOr entry (.inr viable)
  | succ k =>
    obtain ⟨u, round, more⟩ := rounds
    have again := carries_loop fork (carries _ _ first) ⟨k, more⟩ viable
    exact .roundOr entry (.inl (carries _ _ first round again))

/-- The code of a repetition has every number of rounds that the repetition may have. -/
theorem carries_repeatedCode {count : Count} {neverEmpty : Bool}
    (lengths : ∀ here exit, (body here exit).length = length)
    (carries : ∀ here exit, program.Holds here (body here exit) → program.Carries r here exit)
    (holds : program.Holds here (repeatedCode count neverEmpty body length here exit)) :
    program.Carries (fun s t => ∃ n, count.least ≤ n ∧
      (∀ most, count.most = some most → n ≤ max count.least most) ∧ Times r n s t) here exit := by
  obtain ⟨least, most, greedy⟩ := count
  rintro s t ⟨n, (atLeast : least ≤ n), atMost, rounds⟩ viable
  obtain ⟨k, rfl⟩ := Nat.exists_eq_add_of_le atLeast
  cases most with
  | some most =>
    have fits : least + k ≤ max least most := atMost most rfl
    have further : k ≤ most - least := by omega
    exact carries_bounded lengths carries holds ⟨k, further, rounds⟩ viable
  | none =>
    cases least with
    | succ before => exact carries_required lengths carries holds ⟨k, rounds⟩ viable
    | zero =>
      rw [Nat.zero_add] at rounds
      cases neverEmpty with
      | true =>
        obtain ⟨fork, again⟩ := holds_cons_iff.mp holds
        exact carries_loop fork (carries _ _ again) ⟨k, rounds⟩ viable
      | false => exact carries_any lengths carries holds ⟨k, rounds⟩ viable

/-- The code of a pattern goes through everything that the pattern matches. -/
theorem carries_code (p : Pattern) :
    ∀ here exit, program.Holds here (code p here exit) →
      program.Carries (Matches p) here exit := by
  induction p with
  | empty =>
    rintro here exit holds s _ rfl viable
    exact viable.jump (holds 0 _ rfl)
  | start =>
    rintro here exit holds s _ ⟨atStart, rfl⟩ viable
    exact viable.start (holds 0 _ rfl) atStart
  | finish =>
    rintro here exit holds s _ ⟨atEnd, rfl⟩ viable
    exact viable.finish (holds 0 _ rfl) atEnd
  | char set =>
    rintro here exit holds s _ ⟨c, rest, member, ahead, rfl⟩ viable
    rw [ahead]
    exact .read (holds 0 _ rfl) member viable
  | group index body ih =>
    rintro here exit holds s _ ⟨u, inner, rfl⟩ viable
    rw [code, holds_cons_iff, holds_append_iff, length_code, holds_cons_iff] at holds
    obtain ⟨opening, inside, closing, -⟩ := holds
    have behind : program.Viable (here + 1 + body.length) u.position u.rest := viable.save closing
    exact (ih _ _ inside inner behind).save opening
  | seq p q ihp ihq =>
    rintro here exit holds s t ⟨u, first, second⟩ viable
    rw [code, holds_append_iff, length_code] at holds
    exact ihp _ _ holds.1 first (ihq _ _ holds.2 second viable)
  | alt p q ihp ihq =>
    intro here exit holds s t matched viable
    rw [code, holds_cons_iff, holds_append_iff, length_code] at holds
    obtain ⟨fork, left, right⟩ := holds
    exact .split fork (matched.imp (fun matched => ihp _ _ left matched viable)
      fun matched => ihq _ _ right matched viable)
  | repeated count body ih =>
    intro here exit holds
    exact carries_repeatedCode (length_code body) ih holds

/-- The program of a pattern can accept from its start in front of everything that the pattern
matches. -/
theorem viable_of_matches {p : Pattern} (matched : Matches p s t) :
    p.program.Viable 0 s.position s.rest := by
  obtain ⟨code, accept⟩ := holds_program p
  exact carries_code p 0 p.length code matched (.accept accept)

end Program

end SurveyDispatch.Pattern
