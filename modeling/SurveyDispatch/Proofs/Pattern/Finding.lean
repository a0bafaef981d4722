import SurveyDispatch.Proofs.Pattern.Prospects
import SurveyDispatch.Proofs.Pattern.Threads

/-!
# A search finds what there is

Letting threads go on drops those that come to a place where another one has been.  This loses no
match.  All that could be done from a visited place is being done: it is no accepting place, a
reading thread stands there, or the places behind it are visited or have threads (`Closed`).  So in
the end either a thread has accepted, or the way on from a viable place leads to a thread that reads
(`finds_of_goOn`).

The fuel suffices since each step visits a place for the first time, which adds one thread at most,
or ends a thread.

A search therefore finds something exactly if its pattern matches at some place of the text
(`exists_captures?_iff`).  Which match it finds is not said here.
-/

namespace SurveyDispatch.Pattern

variable {program : Program} {position place : Nat} {rest : List Char} {visited : Array Bool}
  {readers threads : List Thread} {thread : Thread} {slots : Slots} {i : Instruction}

/-! ## Visited places -/

/-- A place has been visited.  There are no instructions behind the end of a program, and the places
there count as visited. -/
def Marked (visited : Array Bool) (place : Nat) : Prop := visited.getD place true = true

/-- Visits a place. -/
def mark (visited : Array Bool) (place : Nat) : Array Bool := visited.setIfInBounds place true

theorem marked_mark_iff {other : Nat} :
    Marked (mark visited place) other ↔ other = place ∨ Marked visited other := by
  simp only [Marked, mark, Array.getD_eq_getD_getElem?, Array.getElem?_setIfInBounds]
  by_cases same : place = other
  · subst same
    by_cases inside : place < visited.size <;> simp [inside]
  · simp [same, Ne.symm same]

/-- Marking a fresh place leaves one fewer to be visited, which is why settling ends. -/
theorem count_mark (fresh : ¬ Marked visited place) :
    (mark visited place).count false + 1 = visited.count false := by
  have inside : place < visited.size :=
    Nat.lt_of_not_le fun outside => fresh (by simp [Marked, Nat.not_lt.mpr outside])
  have unmarked : visited[place] = false := by
    simpa [Marked, inside] using fresh
  have some : 0 < visited.count false :=
    Array.count_pos_iff.mpr (unmarked ▸ Array.getElem_mem inside)
  rw [mark, Array.setIfInBounds, dif_pos inside, Array.count_set inside, unmarked]
  simp
  omega

/-- A place has been visited or will be. -/
def Known (visited : Array Bool) (threads : List Thread) (place : Nat) : Prop :=
  Marked visited place ∨ ∃ t ∈ threads, t.place = place

/-- A place that was visited before need not be visited again. -/
theorem Known.skip (h : Known visited (thread :: threads) place)
    (marked : Marked visited thread.place) : Known visited threads place := by
  rcases h with marked | ⟨t, mem, same⟩
  · exact .inl marked
  · rcases List.mem_cons.mp mem with rfl | mem
    · exact .inl (same ▸ marked)
    · exact .inr ⟨t, mem, same⟩

theorem Known.visit {threads' : List Thread} (h : Known visited (thread :: threads) place)
    (pending : threads ⊆ threads') : Known (mark visited thread.place) threads' place := by
  rcases h with marked | ⟨t, mem, same⟩
  · exact .inl (marked_mark_iff.mpr (.inr marked))
  · rcases List.mem_cons.mp mem with rfl | mem
    · exact .inl (marked_mark_iff.mpr (.inl same.symm))
    · exact .inr ⟨t, pending mem, same⟩

/-! ## Where threads go on -/

/-- Where threads go on does not depend on what they have written down. -/
theorem exists_mem_follow {atEnd : Bool} {t : Thread} (other : Slots)
    (mem : t ∈ i.follow position atEnd slots) :
    ∃ u ∈ i.follow position atEnd other, u.place = t.place := by
  cases i with
  | jump next | save slot next =>
    cases List.mem_singleton.mp mem
    exact ⟨_, List.mem_singleton_self _, rfl⟩
  | start next | finish next =>
    rw [Instruction.follow] at mem ⊢
    split at mem
    next holds =>
      cases List.mem_singleton.mp mem
      rw [if_pos holds]
      exact ⟨_, List.mem_singleton_self _, rfl⟩
    next => cases mem
  | split first second =>
    rcases List.mem_cons.mp mem with rfl | mem
    · exact ⟨⟨first, other⟩, List.mem_cons_self, rfl⟩
    · cases List.mem_singleton.mp mem
      exact ⟨⟨second, other⟩, List.mem_cons_of_mem _ (List.mem_singleton_self _), rfl⟩
  | char set next | accept => cases mem

theorem length_follow_le {atEnd : Bool} : (i.follow position atEnd slots).length ≤ 2 := by
  cases i with
  | start next | finish next =>
    rw [Instruction.follow]
    split <;> simp
  | jump next | save slot next | split first second | char set next | accept =>
    simp [Instruction.follow]

/-! ## Letting threads go on -/

/-- A thread reads the next character and can accept behind it. -/
def Thread.Proceeds (program : Program) (position : Nat) (rest : List Char) (t : Thread) : Prop :=
  ∃ c more next, rest = c :: more ∧ t.read? program c = some next ∧
    program.Viable next.place (position + 1) more

/-- Some thread has accepted or can accept behind the next character. -/
def Round.Finds (program : Program) (position : Nat) (rest : List Char) (round : Round) : Prop :=
  round.accepted.isSome = true ∨ ∃ t ∈ round.readers, t.Proceeds program position rest

/-- What has been done about the places that are visited. -/
structure Closed (program : Program) (position : Nat) (rest : List Char) (visited : Array Bool)
    (readers threads : List Thread) : Prop where
  /-- There is a mark for each place. -/
  size : visited.size = program.size
  /-- No thread has accepted. -/
  notAccept : ∀ place, Marked visited place → program[place]? ≠ some .accept
  /-- A thread stands at each reading place. -/
  reads : ∀ place set next, Marked visited place → program[place]? = some (.char set next) →
    ∃ t ∈ readers, t.place = place
  /-- The places behind are visited, or threads stand there. -/
  follows : ∀ place i slots t, Marked visited place → program[place]? = some i →
    t ∈ i.follow position rest.isEmpty slots → Known visited threads t.place

namespace Closed

/-- A thread at a visited place may end. -/
theorem skip (h : Closed program position rest visited readers (thread :: threads))
    (marked : Marked visited thread.place) :
    Closed program position rest visited readers threads := by
  refine ⟨h.size, h.notAccept, h.reads, ?_⟩
  intro place i slots t visitedPlace found mem
  exact (h.follows place i slots t visitedPlace found mem).skip marked

/-- A thread visits its place, with all that follows from its instruction. -/
theorem visit {readers' threads' : List Thread}
    (h : Closed program position rest visited readers (thread :: threads))
    (found : program[thread.place]? = some i) (notAccept : i ≠ .accept)
    (kept : readers ⊆ readers') (reads : ∀ set next, i = .char set next → thread ∈ readers')
    (pending : threads ⊆ threads')
    (follows : ∀ slots, ∀ t ∈ i.follow position rest.isEmpty slots,
      ∃ u ∈ threads', u.place = t.place) :
    Closed program position rest (mark visited thread.place) readers' threads' := by
  refine ⟨?_, ?_, ?_, ?_⟩
  · rw [mark, Array.size_setIfInBounds, h.size]
  · intro place marked
    rcases marked_mark_iff.mp marked with rfl | marked
    · rw [found]
      exact fun same => notAccept (Option.some.inj same)
    · exact h.notAccept place marked
  · intro place set next marked char
    rcases marked_mark_iff.mp marked with rfl | marked
    · exact ⟨thread, reads set next (Option.some.inj (found.symm.trans char)), rfl⟩
    · obtain ⟨t, mem, same⟩ := h.reads place set next marked char
      exact ⟨t, kept mem, same⟩
  · intro place j slots t marked found' mem
    rcases marked_mark_iff.mp marked with rfl | marked
    · cases found.symm.trans found'
      exact .inr (follows slots t mem)
    · exact (h.follows place j slots t marked found' mem).visit pending

/-- When no thread is left to go on, the way from a visited place leads to a thread that reads. -/
theorem exists_proceeds (h : Closed program position rest visited readers [])
    (viable : program.Viable place position rest) (marked : Marked visited place) :
    ∃ t ∈ readers, t.Proceeds program position rest := by
  induction viable with
  | accept found => exact absurd found (h.notAccept _ marked)
  | follow found mem _ ih =>
    rcases h.follows _ _ _ _ marked found mem with there | ⟨u, none, -⟩
    · exact ih h there
    · cases none
  | @read _ next _ c rest _ found member viable =>
    obtain ⟨t, mem, rfl⟩ := h.reads _ _ _ marked found
    refine ⟨t, mem, c, rest, { t with place := next }, rfl, ?_, viable⟩
    rw [Thread.read?, found]
    exact if_pos member

end Closed

/-- Letting threads go on loses no match from a place that is visited or has a thread. -/
theorem finds_of_goOn {fuel : Nat} (h : Closed program position rest visited readers threads)
    (enough : 2 * visited.count false + threads.length ≤ fuel)
    (viable : program.Viable place position rest)
    (known : Known visited threads place) :
    (goOn program position rest.isEmpty fuel visited readers threads).Finds program position
      rest := by
  fun_induction goOn program position rest.isEmpty fuel visited readers threads with
  | case1 fuel visited readers =>
    rcases known with marked | ⟨t, none, -⟩
    · obtain ⟨t, mem, proceeds⟩ := h.exists_proceeds viable marked
      exact .inr ⟨t, List.mem_reverse.mpr mem, proceeds⟩
    · cases none
  | case2 visited readers threads nonempty =>
    have none : threads.length = 0 := by omega
    exact absurd (List.length_eq_zero_iff.mp none) nonempty
  | case3 fuel visited readers thread threads been ih =>
    rw [List.length_cons] at enough
    exact ih (h.skip been) (by omega) (known.skip been)
  | case4 fuel visited readers thread threads fresh visited' missing ih =>
    -- A place without an instruction counts as visited.
    refine absurd ?_ fresh
    rw [Array.getElem?_eq_none_iff] at missing
    have outside : ¬ thread.place < visited.size := by
      rw [h.size]
      omega
    simp [outside]
  | case5 fuel visited readers thread threads fresh visited' set next found ih =>
    have count := count_mark fresh
    rw [List.length_cons] at enough
    have fewer : 2 * (mark visited thread.place).count false + threads.length ≤ fuel := by omega
    have notAccept : Instruction.char set next ≠ .accept := by rintro ⟨⟩
    refine ih (h.visit found notAccept ?_ ?_ ?_ ?_) fewer
      (known.visit (List.Subset.refl threads))
    · exact List.subset_cons_self thread readers
    · exact fun _ _ _ => List.mem_cons_self
    · exact List.Subset.refl threads
    · exact fun _ _ none => absurd none List.not_mem_nil
  | case6 fuel visited readers thread threads fresh found => exact .inl rfl
  | case7 fuel visited readers thread threads fresh visited' i notChar notAccept found ih =>
    have count := count_mark fresh
    have most : (i.follow position rest.isEmpty thread.slots).length ≤ 2 := length_follow_le
    rw [List.length_cons] at enough
    have fewer : 2 * (mark visited thread.place).count false +
        (i.follow position rest.isEmpty thread.slots ++ threads).length ≤ fuel := by
      rw [List.length_append]
      omega
    have pending := List.subset_append_right (i.follow position rest.isEmpty thread.slots) threads
    refine ih (h.visit found notAccept ?_ ?_ pending ?_) fewer (known.visit pending)
    · exact List.Subset.refl readers
    · exact fun set next same => absurd same (notChar set next)
    · intro slots t mem
      obtain ⟨u, mem, same⟩ := exists_mem_follow thread.slots mem
      exact ⟨u, List.mem_append_left threads mem, same⟩

theorem closed_start :
    Closed program position rest (.replicate program.size false) [] threads := by
  -- Only the places behind the end are visited, and there are no instructions.
  have missing : ∀ {place}, Marked (.replicate program.size false) place →
      program[place]? = none := by
    intro place marked
    by_cases inside : place < program.size
    · simp [Marked, inside] at marked
    · exact Array.getElem?_eq_none (Nat.not_lt.mp inside)
  refine ⟨Array.size_replicate, ?_, ?_, ?_⟩
  · intro place marked
    rw [missing marked]
    exact nofun
  · intro place set next marked found
    cases (missing marked).symm.trans found
  · intro place i slots t marked found
    cases (missing marked).symm.trans found

/-- A round finds a match if it starts with a thread that has one. -/
theorem finds_of_settle (mem : thread ∈ threads)
    (viable : program.Viable thread.place position rest) :
    (settle program position rest.isEmpty threads).Finds program position rest := by
  refine finds_of_goOn closed_start (Nat.le_of_eq ?_) viable (.inr ⟨thread, mem, rfl⟩)
  rw [Array.count_replicate_self]

/-! ## Searching -/

/-- A thread can accept, or one that starts somewhere in the text can. -/
def Promising (program : Program) (position : Nat) (threads : List Thread) (rest : List Char) :
    Prop :=
  (∃ t ∈ threads, program.Viable t.place position rest) ∨
    ∃ front back, rest = front ++ back ∧ program.Viable 0 (position + front.length) back

/-- As long as nothing has been found, a thread starts at every place. -/
theorem Promising.cases_start (h : Promising program position threads rest) :
    (∃ t ∈ withStart threads none, program.Viable t.place position rest) ∨
      ∃ c more, rest = c :: more ∧ Promising program (position + 1) [] more := by
  have started : withStart threads none = threads ++ [⟨0, []⟩] := rfl
  rw [started]
  rcases h with ⟨t, mem, viable⟩ | ⟨front, back, rfl, viable⟩
  · exact .inl ⟨t, List.mem_append_left _ mem, viable⟩
  · cases front with
    | nil =>
      exact .inl ⟨⟨0, []⟩, List.mem_append_right _ (List.mem_singleton_self _), viable⟩
    | cons c front =>
      rw [List.length_cons, Nat.add_comm front.length, ← Nat.add_assoc] at viable
      exact .inr ⟨c, front ++ back, rfl, .inr ⟨front, back, rfl, viable⟩⟩

theorem Promising.mono {threads' : List Thread} (h : Promising program position threads rest)
    (sub : threads ⊆ threads') : Promising program position threads' rest :=
  h.imp_left fun ⟨t, mem, viable⟩ => ⟨t, sub mem, viable⟩

theorem Round.Finds.promising {c : Char} {round : Round}
    (h : round.Finds program position (c :: rest)) :
    round.accepted.isSome = true ∨
      Promising program (position + 1) (round.readers.filterMap (Thread.read? program c)) rest := by
  refine h.imp_right ?_
  rintro ⟨t, mem, _, _, next, ⟨⟩, read, viable⟩
  exact .inl ⟨next, List.mem_filterMap.mpr ⟨t, mem, read⟩, viable⟩

/-- A search finds something if it has, or if it can. -/
theorem isSome_search {found : Option Slots}
    (h : found.isSome = true ∨ Promising program position threads rest) :
    (search program position threads found rest).isSome = true := by
  induction rest generalizing position threads found with
  | nil =>
    rw [search, Option.isSome_or, Bool.or_eq_true]
    cases found with
    | some out => exact .inr rfl
    | none =>
      have promising := h.resolve_left Bool.false_ne_true
      rcases promising.cases_start with ⟨t, mem, viable⟩ | ⟨c, more, ⟨⟩, -⟩
      rcases finds_of_settle mem viable with accepted | ⟨t, mem, c, more, next, ⟨⟩, -⟩
      exact .inl accepted
  | cons c rest ih =>
    rw [search]
    generalize settled : settle program position false (withStart threads found) = round
    have next : (round.accepted.or found).isSome = true ∨
        Promising program (position + 1) (round.readers.filterMap (Thread.read? program c))
          rest := by
      rw [Option.isSome_or, Bool.or_eq_true]
      cases found with
      | some out => exact .inl (.inr rfl)
      | none =>
        have promising := h.resolve_left Bool.false_ne_true
        rcases promising.cases_start with ⟨t, mem, viable⟩ | ⟨_, _, ⟨⟩, later⟩
        · have finds := finds_of_settle mem viable
          rw [List.isEmpty_cons, settled] at finds
          exact finds.promising.imp_left .inl
        · exact .inr (later.mono (List.nil_subset _))
    split
    next done => exact (Bool.and_eq_true_iff.mp done).2
    next => exact ih next

/-- A program captures something of a text exactly if its pattern matches somewhere. -/
theorem exists_captures?_iff {p : Pattern} {text : List Char} :
    (∃ m, p.program.captures? text = some m) ↔
      ∃ front back t, text = front ++ back ∧ Matches p ⟨front.length, back, []⟩ t := by
  constructor
  · rintro ⟨m, captured⟩
    obtain ⟨-, front, back, t, split, matched, -⟩ := matches_of_captures? captured
    exact ⟨front, back, t, split, matched⟩
  · rintro ⟨front, back, t, split, matched⟩
    have viable : p.program.Viable 0 (0 + front.length) back := by
      rw [Nat.zero_add]
      exact Program.viable_of_matches matched
    have found : (search p.program 0 [] none text).isSome = true :=
      isSome_search (.inr (.inr ⟨front, back, split, viable⟩))
    obtain ⟨out, found⟩ := Option.isSome_iff_exists.mp found
    exact ⟨⟨text, out⟩, by rw [Program.captures?, found, Option.map_some]⟩

end SurveyDispatch.Pattern
