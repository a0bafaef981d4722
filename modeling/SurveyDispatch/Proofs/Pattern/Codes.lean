import SurveyDispatch.Proofs.Pattern.Matching

/-!
# What codes do

A thread goes through a program step by step (`Program.Step`) until it stands at an accepting
instruction (`Program.Accepts`).  A run that starts at the code of a pattern leaves that code only
at its exit, and on the way there it has gone through what the pattern matches (`leads_code`).

The proof is by induction on the pattern.  A loop has no such measure, so runs count their steps:
the run that is left at an exit is shorter, and a loop is gone through by induction on this number.
-/

namespace SurveyDispatch.Pattern

namespace Program

variable {program : Program} {place next here exit n : Nat} {s t : State} {out : Slots}

/-! ## Runs -/

/-- One step of a thread. -/
inductive Step (program : Program) : Nat → State → Nat → State → Prop where
  /-- Goes on without reading. -/
  | follow {place : Nat} {s : State} {i : Instruction} {t : Thread}
      (found : program[place]? = some i) (mem : t ∈ i.follow s.position s.rest.isEmpty s.slots) :
      Step program place s t.place { s with slots := t.slots }
  /-- Reads a character. -/
  | read {place next : Nat} {s t : State} {set : CharSet}
      (found : program[place]? = some (.char set next)) (reads : s.Reads set t) :
      Step program place s next t

/-- A thread accepts after so many steps. -/
inductive Accepts (program : Program) : Nat → Nat → State → Slots → Prop where
  /-- It stands at an accepting instruction. -/
  | accept {place : Nat} {s : State} (found : program[place]? = some .accept) :
      Accepts program 0 place s s.slots
  /-- It accepts after a step. -/
  | step {n place next : Nat} {s t : State} {out : Slots} (step : Step program place s next t)
      (run : Accepts program n next t out) : Accepts program (n + 1) place s out

namespace Accepts

/-- A run makes a step unless it stands at an accepting instruction. -/
theorem cases_step {i : Instruction} (h : program.Accepts n place s out)
    (found : program[place]? = some i) (notAccept : i ≠ .accept) :
    ∃ m < n, ∃ next t, program.Step place s next t ∧ program.Accepts m next t out := by
  cases h with
  | accept found' =>
    cases found.symm.trans found'
    exact absurd rfl notAccept
  | @step m _ next _ t _ step run => exact ⟨m, Nat.lt_succ_self m, next, t, step, run⟩

/-- A run at an instruction that does not read goes on at one of the threads it turns into. -/
theorem cases_follow {i : Instruction} (h : program.Accepts n place s out)
    (found : program[place]? = some i) (notAccept : i ≠ .accept)
    (notChar : ∀ set next, i ≠ .char set next) :
    ∃ m < n, ∃ t ∈ i.follow s.position s.rest.isEmpty s.slots,
      program.Accepts m t.place { s with slots := t.slots } out := by
  obtain ⟨m, shorter, next, t, step, run⟩ := h.cases_step found notAccept
  cases step with
  | follow found' mem =>
    cases found.symm.trans found'
    exact ⟨m, shorter, _, mem, run⟩
  | read found' _ =>
    cases found.symm.trans found'
    exact absurd rfl (notChar _ _)

theorem jump (h : program.Accepts n place s out) (found : program[place]? = some (.jump next)) :
    ∃ m < n, program.Accepts m next s out := by
  obtain ⟨m, shorter, t, mem, run⟩ := h.cases_follow found nofun nofun
  cases List.mem_singleton.mp mem
  exact ⟨m, shorter, run⟩

theorem start (h : program.Accepts n place s out) (found : program[place]? = some (.start next)) :
    s.position = 0 ∧ ∃ m < n, program.Accepts m next s out := by
  obtain ⟨m, shorter, t, mem, run⟩ := h.cases_follow found nofun nofun
  rw [Instruction.follow] at mem
  split at mem
  next atStart =>
    cases List.mem_singleton.mp mem
    exact ⟨atStart, m, shorter, run⟩
  next => cases mem

theorem finish (h : program.Accepts n place s out) (found : program[place]? = some (.finish next)) :
    s.rest = [] ∧ ∃ m < n, program.Accepts m next s out := by
  obtain ⟨m, shorter, t, mem, run⟩ := h.cases_follow found nofun nofun
  rw [Instruction.follow] at mem
  split at mem
  next atEnd =>
    cases List.mem_singleton.mp mem
    exact ⟨List.isEmpty_iff.mp atEnd, m, shorter, run⟩
  next => cases mem

theorem save {slot : Nat} (h : program.Accepts n place s out)
    (found : program[place]? = some (.save slot next)) :
    ∃ m < n, program.Accepts m next (s.save slot) out := by
  obtain ⟨m, shorter, t, mem, run⟩ := h.cases_follow found nofun nofun
  cases List.mem_singleton.mp mem
  exact ⟨m, shorter, run⟩

theorem split {first second : Nat} (h : program.Accepts n place s out)
    (found : program[place]? = some (.split first second)) :
    ∃ m < n, program.Accepts m first s out ∨ program.Accepts m second s out := by
  obtain ⟨m, shorter, t, mem, run⟩ := h.cases_follow found nofun nofun
  rcases List.mem_cons.mp mem with rfl | mem
  · exact ⟨m, shorter, .inl run⟩
  · cases List.mem_singleton.mp mem
    exact ⟨m, shorter, .inr run⟩

theorem roundOr {greedy : Bool} {round done : Nat} (h : program.Accepts n place s out)
    (found : program[place]? = some (roundOr greedy round done)) :
    ∃ m < n, program.Accepts m round s out ∨ program.Accepts m done s out := by
  cases greedy with
  | true => exact h.split found
  | false =>
    obtain ⟨m, shorter, run⟩ := h.split found
    exact ⟨m, shorter, run.symm⟩

theorem char {set : CharSet} (h : program.Accepts n place s out)
    (found : program[place]? = some (.char set next)) :
    ∃ m < n, ∃ t, s.Reads set t ∧ program.Accepts m next t out := by
  obtain ⟨m, shorter, next', t, step, run⟩ := h.cases_step found nofun
  cases step with
  | follow found' mem =>
    cases found.symm.trans found'
    cases mem
  | read found' reads =>
    cases found.symm.trans found'
    exact ⟨m, shorter, t, reads, run⟩

/-- At an accepting instruction the slots are those written down. -/
theorem out_eq (h : program.Accepts n place s out) (found : program[place]? = some .accept) :
    out = s.slots := by
  cases h with
  | accept => rfl
  | step step =>
    cases step with
    | follow found' mem =>
      cases found.symm.trans found'
      cases mem
    | read found' => cases found.symm.trans found'

end Accepts

/-! ## Codes inside a program -/

/-- A code stands in a program from a place on. -/
def Holds (program : Program) (here : Nat) (code : List Instruction) : Prop :=
  ∀ k i, code[k]? = some i → program[here + k]? = some i

theorem holds_cons_iff {i : Instruction} {code : List Instruction} :
    program.Holds here (i :: code) ↔ program[here]? = some i ∧ program.Holds (here + 1) code := by
  constructor
  · intro h
    refine ⟨h 0 i rfl, fun k j found => ?_⟩
    rw [Nat.add_assoc, Nat.add_comm 1]
    exact h (k + 1) j found
  · rintro ⟨head, tail⟩ k j found
    cases k with
    | zero =>
      cases found
      exact head
    | succ k =>
      rw [Nat.add_comm k, ← Nat.add_assoc]
      exact tail k j found

/-- A program holds two codes one behind the other where the second one starts. -/
theorem holds_append_iff {front back : List Instruction} :
    program.Holds here (front ++ back) ↔
      program.Holds here front ∧ program.Holds (here + front.length) back := by
  induction front generalizing here with
  | nil => simp [Holds]
  | cons i front ih =>
    rw [List.cons_append, holds_cons_iff, holds_cons_iff, ih, List.length_cons, and_assoc,
      Nat.add_assoc, Nat.add_comm 1]

/-- Every run from a place comes to an exit with less to go, and is related to where it was. -/
def Leads (program : Program) (r : State → State → Prop) (here exit : Nat) : Prop :=
  ∀ n s out, program.Accepts n here s out →
    ∃ m < n, ∃ t, r s t ∧ program.Accepts m exit t out

variable {r : State → State → Prop} {body : Code} {length : Nat}

/-- A loop ends after some number of rounds. -/
theorem leads_loop {greedy : Bool} {round : Nat}
    (found : program[here]? = some (roundOr greedy round exit))
    (leads : program.Leads r round here) :
    program.Leads (fun s t => ∃ n, Times r n s t) here exit := by
  intro n
  induction n using Nat.strongRecOn with
  | ind n ih =>
    intro s out run
    obtain ⟨i, ltI, into | done⟩ := run.roundOr found
    · obtain ⟨j, ltJ, t, round, again⟩ := leads i s out into
      obtain ⟨k, ltK, u, ⟨rounds, more⟩, done⟩ := ih j (Nat.lt_trans ltJ ltI) t out again
      exact ⟨k, by omega, u, ⟨rounds + 1, t, round, more⟩, done⟩
    · exact ⟨i, ltI, s, ⟨0, rfl⟩, done⟩

/-! ## Rounds that have to be -/

theorem rounds_succ (body : Code) (length count here : Nat) :
    rounds body length (count + 1) here =
      rounds body length count here ++
        body (here + count * length) (here + (count + 1) * length) := by
  rw [rounds, List.range_succ, List.flatMap_append, List.flatMap_singleton]
  rfl

/-- A run goes through all rounds that have to be. -/
theorem accepts_rounds {count : Nat} (lengths : ∀ here exit, (body here exit).length = length)
    (leads : ∀ here exit, program.Holds here (body here exit) → program.Leads r here exit)
    (holds : program.Holds here (rounds body length count here))
    (run : program.Accepts n here s out) :
    ∃ m ≤ n, ∃ t, Times r count s t ∧ program.Accepts m (here + count * length) t out := by
  induction count with
  | zero =>
    rw [Nat.zero_mul]
    exact ⟨n, Nat.le_refl n, s, rfl, run⟩
  | succ count ih =>
    rw [rounds_succ, holds_append_iff, length_rounds lengths] at holds
    obtain ⟨front, last⟩ := holds
    obtain ⟨i, leI, t, rounds, run⟩ := ih front
    obtain ⟨j, ltJ, u, round, run⟩ := leads _ _ last i t out run
    exact ⟨j, by omega, u, times_add rounds (times_one_iff.mpr round), run⟩

/-! ## Rounds that may be -/

theorem optionalRounds_succ (greedy : Bool) (body : Code) (length count here exit : Nat) :
    optionalRounds greedy body length (count + 1) here exit =
      optionalRounds greedy body length count here exit ++
        (roundOr greedy (here + count * (length + 1) + 1) exit ::
          body (here + count * (length + 1) + 1) (here + count * (length + 1) + 1 + length)) := by
  rw [optionalRounds, List.range_succ, List.flatMap_append, List.flatMap_singleton]
  rfl

/-- A run goes through some of the rounds that may be and leaves, or goes through all of them. -/
theorem accepts_optionalRounds {greedy : Bool} {count : Nat}
    (lengths : ∀ here exit, (body here exit).length = length)
    (leads : ∀ here exit, program.Holds here (body here exit) → program.Leads r here exit)
    (holds : program.Holds here (optionalRounds greedy body length count here exit))
    (run : program.Accepts n here s out) :
    ∃ m ≤ n, ∃ k ≤ count, ∃ t, Times r k s t ∧
      (m < n ∧ program.Accepts m exit t out ∨
        k = count ∧ program.Accepts m (here + count * (length + 1)) t out) := by
  induction count with
  | zero =>
    rw [Nat.zero_mul]
    exact ⟨n, Nat.le_refl n, 0, Nat.le_refl 0, s, rfl, .inr ⟨rfl, run⟩⟩
  | succ count ih =>
    rw [optionalRounds_succ, holds_append_iff, length_optionalRounds lengths,
      holds_cons_iff] at holds
    obtain ⟨front, fork, last⟩ := holds
    obtain ⟨i, leI, k, leK, t, rounds, left | ⟨rfl, run⟩⟩ := ih front
    · exact ⟨i, leI, k, Nat.le_succ_of_le leK, t, rounds, .inl left⟩
    · obtain ⟨j, ltJ, into | done⟩ := run.roundOr fork
      · obtain ⟨l, ltL, u, round, run⟩ := leads _ _ last j t out into
        refine ⟨l, by omega, k + 1, Nat.le_refl _, u, times_add rounds (times_one_iff.mpr round),
          .inr ⟨rfl, ?_⟩⟩
        have behind : here + k * (length + 1) + 1 + length = here + (k + 1) * (length + 1) := by
          rw [Nat.succ_mul]
          omega
        rw [← behind]
        exact run
      · exact ⟨j, by omega, k, Nat.le_succ k, t, rounds, .inl ⟨by omega, done⟩⟩

/-! ## The code of a pattern -/

/-- Rounds that have to be, then rounds that may be. -/
theorem leads_bounded {greedy : Bool} {least further : Nat}
    (lengths : ∀ here exit, (body here exit).length = length)
    (leads : ∀ here exit, program.Holds here (body here exit) → program.Leads r here exit)
    (holds : program.Holds here (rounds body length least here ++
      optionalRounds greedy body length further (here + least * length) exit ++ [.jump exit])) :
    program.Leads (fun s t => ∃ k ≤ further, Times r (least + k) s t) here exit := by
  intro n s out run
  rw [holds_append_iff, holds_append_iff, length_rounds lengths, List.length_append,
    length_rounds lengths, length_optionalRounds lengths, ← Nat.add_assoc, holds_cons_iff] at holds
  obtain ⟨⟨required, optional⟩, jump, -⟩ := holds
  obtain ⟨i, leI, t, rounds, run⟩ := accepts_rounds lengths leads required run
  obtain ⟨j, leJ, k, leK, u, more, done⟩ := accepts_optionalRounds lengths leads optional run
  rcases done with ⟨ltJ, done⟩ | ⟨-, run⟩
  · exact ⟨j, by omega, u, ⟨k, leK, times_add rounds more⟩, done⟩
  · obtain ⟨l, ltL, done⟩ := run.jump jump
    exact ⟨l, by omega, u, ⟨k, leK, times_add rounds more⟩, done⟩

/-- Rounds that have to be, of which the last one is gone through again. -/
theorem leads_required {greedy : Bool} {before : Nat}
    (lengths : ∀ here exit, (body here exit).length = length)
    (leads : ∀ here exit, program.Holds here (body here exit) → program.Leads r here exit)
    (holds : program.Holds here (rounds body length (before + 1) here ++
      [roundOr greedy (here + before * length) exit])) :
    program.Leads (fun s t => ∃ k, Times r (before + 1 + k) s t) here exit := by
  intro n s out run
  rw [holds_append_iff, length_rounds lengths, holds_cons_iff] at holds
  obtain ⟨required, fork, -⟩ := holds
  obtain ⟨i, leI, t, rounds, run⟩ := accepts_rounds lengths leads required run
  rw [rounds_succ, holds_append_iff, length_rounds lengths] at required
  obtain ⟨j, ltJ, u, ⟨k, more⟩, done⟩ := leads_loop fork (leads _ _ required.2) i t out run
  exact ⟨j, by omega, u, ⟨k, times_add rounds more⟩, done⟩

/-- Any number of rounds, where each one is followed by a split of its own. -/
theorem leads_any {greedy : Bool} (lengths : ∀ here exit, (body here exit).length = length)
    (leads : ∀ here exit, program.Holds here (body here exit) → program.Leads r here exit)
    (holds : program.Holds here (roundOr greedy (here + 1) exit ::
      (body (here + 1) (here + 1 + length) ++ [roundOr greedy (here + 1) exit]))) :
    program.Leads (fun s t => ∃ k, Times r k s t) here exit := by
  intro n s out run
  rw [holds_cons_iff, holds_append_iff, lengths, holds_cons_iff] at holds
  obtain ⟨entry, first, fork, -⟩ := holds
  obtain ⟨i, ltI, into | done⟩ := run.roundOr entry
  · obtain ⟨j, ltJ, t, round, run⟩ := leads _ _ first i s out into
    obtain ⟨k, ltK, u, ⟨rounds, more⟩, done⟩ := leads_loop fork (leads _ _ first) j t out run
    exact ⟨k, by omega, u, ⟨rounds + 1, t, round, more⟩, done⟩
  · exact ⟨i, ltI, s, ⟨0, rfl⟩, done⟩

/-- What a code leads to may be described more loosely. -/
theorem Leads.mono {r' : State → State → Prop} (h : program.Leads r here exit)
    (sub : ∀ s t, r s t → r' s t) : program.Leads r' here exit := by
  intro n s out run
  obtain ⟨m, shorter, t, related, run⟩ := h n s out run
  exact ⟨m, shorter, t, sub s t related, run⟩

/-- The code of a repetition goes through as many rounds as the repetition may have. -/
theorem leads_repeatedCode {count : Count} {neverEmpty : Bool}
    (lengths : ∀ here exit, (body here exit).length = length)
    (leads : ∀ here exit, program.Holds here (body here exit) → program.Leads r here exit)
    (holds : program.Holds here (repeatedCode count neverEmpty body length here exit)) :
    program.Leads (fun s t => ∃ n, count.least ≤ n ∧
      (∀ most, count.most = some most → n ≤ max count.least most) ∧ Times r n s t) here exit := by
  obtain ⟨least, most, greedy⟩ := count
  cases most with
  | some most =>
    refine (leads_bounded lengths leads holds).mono ?_
    rintro s t ⟨k, le, rounds⟩
    refine ⟨least + k, Nat.le_add_right least k, ?_, rounds⟩
    rintro _ ⟨⟩
    have le : k ≤ most - least := le
    show least + k ≤ max least most
    omega
  | none =>
    cases least with
    | succ before =>
      refine (leads_required lengths leads holds).mono ?_
      rintro s t ⟨k, rounds⟩
      exact ⟨_, Nat.le_add_right _ k, nofun, rounds⟩
    | zero =>
      have any : program.Leads (fun s t => ∃ k, Times r k s t) here exit := by
        cases neverEmpty with
        | true =>
          obtain ⟨fork, again⟩ := holds_cons_iff.mp holds
          exact leads_loop fork (leads _ _ again)
        | false => exact leads_any lengths leads holds
      refine any.mono ?_
      rintro s t ⟨k, rounds⟩
      exact ⟨k, Nat.zero_le k, nofun, rounds⟩

/-- The code of a pattern goes through what the pattern matches. -/
theorem leads_code (p : Pattern) :
    ∀ here exit, program.Holds here (code p here exit) → program.Leads (Matches p) here exit := by
  induction p with
  | empty =>
    intro here exit holds n s out run
    obtain ⟨m, shorter, run⟩ := run.jump (holds 0 _ rfl)
    exact ⟨m, shorter, s, rfl, run⟩
  | start =>
    intro here exit holds n s out run
    obtain ⟨atStart, m, shorter, run⟩ := run.start (holds 0 _ rfl)
    exact ⟨m, shorter, s, ⟨atStart, rfl⟩, run⟩
  | finish =>
    intro here exit holds n s out run
    obtain ⟨atEnd, m, shorter, run⟩ := run.finish (holds 0 _ rfl)
    exact ⟨m, shorter, s, ⟨atEnd, rfl⟩, run⟩
  | char set =>
    intro here exit holds n s out run
    exact run.char (holds 0 _ rfl)
  | group index body ih =>
    intro here exit holds n s out run
    rw [code, holds_cons_iff, holds_append_iff, length_code, holds_cons_iff] at holds
    obtain ⟨opening, inside, closing, -⟩ := holds
    obtain ⟨i, ltI, run⟩ := run.save opening
    obtain ⟨j, ltJ, t, matched, run⟩ := ih _ _ inside i _ out run
    obtain ⟨k, ltK, run⟩ := run.save closing
    exact ⟨k, by omega, _, ⟨t, matched, rfl⟩, run⟩
  | seq p q ihp ihq =>
    intro here exit holds n s out run
    rw [code, holds_append_iff, length_code] at holds
    obtain ⟨i, ltI, t, first, run⟩ := ihp _ _ holds.1 n s out run
    obtain ⟨j, ltJ, u, second, run⟩ := ihq _ _ holds.2 i t out run
    exact ⟨j, by omega, u, ⟨t, first, second⟩, run⟩
  | alt p q ihp ihq =>
    intro here exit holds n s out run
    rw [code, holds_cons_iff, holds_append_iff, length_code] at holds
    obtain ⟨fork, left, right⟩ := holds
    obtain ⟨i, ltI, run | run⟩ := run.split fork
    · obtain ⟨j, ltJ, t, matched, run⟩ := ihp _ _ left i s out run
      exact ⟨j, by omega, t, .inl matched, run⟩
    · obtain ⟨j, ltJ, t, matched, run⟩ := ihq _ _ right i s out run
      exact ⟨j, by omega, t, .inr matched, run⟩
  | repeated count body ih =>
    intro here exit holds
    exact leads_repeatedCode (length_code body) ih holds

/-- The code of a pattern and the accepting instruction behind it make up its program. -/
theorem holds_program (p : Pattern) :
    p.program.Holds 0 (code p 0 p.length) ∧ p.program[p.length]? = some .accept := by
  have holds : p.program.Holds 0 (code p 0 p.length ++ [.accept]) := by
    intro k i found
    rw [program, List.getElem?_toArray, Nat.zero_add]
    exact found
  rw [holds_append_iff, length_code, holds_cons_iff, Nat.zero_add] at holds
  exact ⟨holds.1, holds.2.1⟩

/-- A run of the program of a pattern goes through what the pattern matches. -/
theorem matches_of_accepts {p : Pattern} (run : p.program.Accepts n 0 s out) :
    ∃ t, Matches p s t ∧ t.slots = out := by
  obtain ⟨code, accept⟩ := holds_program p
  obtain ⟨m, -, t, matched, run⟩ := leads_code p 0 p.length code n s out run
  exact ⟨t, matched, (run.out_eq accept).symm⟩

end Program

end SurveyDispatch.Pattern
