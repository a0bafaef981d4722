import SurveyDispatch.Proofs.Store.Objects

/-!
# Components of paths

The components of a path are what counts of it (`Path.components`).  Empty parts and `.` are left
out, but for a slash or a `.` at the very front.

A key names an object if it has components and all of them are names (`isBelowRoot_iff_components`).
The path of the object then has the components of the root and behind them the names of the key.
Names lead down, so the path leads to a place below that of the root and to no other
(`FileSystem.keys_stay_below`).
-/

namespace SurveyDispatch

open Document (segments)

namespace Path

/-! ## Components -/

/-- A component of a path. -/
inductive Component where
  /-- The root of all files. -/
  | root
  /-- The place where the path starts. -/
  | here
  /-- The place above. -/
  | up
  /-- What has a name. -/
  | name (text : String)
  deriving DecidableEq, Repr

/-- The component of a part that is not the first one. -/
def inner? (part : String) : Option Component :=
  if part = "" ∨ part = "." then none
  else if part = ".." then some .up
  else some (.name part)

/-- The component of the first part, which may be the only one. -/
def first? (part : String) (only : Bool) : Option Component :=
  if part = "" ∧ only = false then some .root
  else if part = "." then some .here
  else inner? part

/-- The components of parts. -/
def componentsOf : List String → List Component
  | [] => []
  | part :: rest => (first? part rest.isEmpty).toList ++ rest.filterMap inner?

/-- The components of a path. -/
def components (path : String) : List Component := componentsOf (segments path)

/-- The parts that are neither empty nor `.`. -/
def namesOf (parts : List String) : List String :=
  parts.filter fun part => part != "" && part != "."

/-- The components that are names. -/
def AreNames (cs : List Component) : Prop := ∀ c ∈ cs, ∃ text, c = .name text

variable {part : String} {parts rest : List String}

theorem inner?_of_isName (h : IsName part) : inner? part = some (.name part) := by
  obtain ⟨notEmpty, notDot, notUp⟩ := h
  simp [inner?, notEmpty, notDot, notUp]

theorem namesOf_cons_of_isName (h : IsName part) : namesOf (part :: rest) = part :: namesOf rest :=
  List.filter_cons_of_pos (by simp [h.1, h.2.1])

theorem namesOf_cons_of_stays (h : part = "" ∨ part = ".") :
    namesOf (part :: rest) = namesOf rest := by
  rcases h with rfl | rfl <;> rfl

theorem isName_of_mem_namesOf (noUp : ".." ∉ parts) (mem : part ∈ namesOf parts) : IsName part := by
  obtain ⟨mem, moves⟩ := List.mem_filter.mp mem
  obtain ⟨notEmpty, notDot⟩ := Bool.and_eq_true_iff.mp moves
  exact ⟨bne_iff_ne.mp notEmpty, bne_iff_ne.mp notDot, fun up => noUp (up ▸ mem)⟩

theorem filterMap_inner? (noUp : ".." ∉ parts) :
    parts.filterMap inner? = (namesOf parts).map .name := by
  induction parts with
  | nil => rfl
  | cons part rest ih =>
    obtain ⟨notUp, noUp⟩ := List.ne_and_not_mem_of_not_mem_cons noUp
    by_cases stays : part = "" ∨ part = "."
    · have none : inner? part = none := if_pos stays
      rw [List.filterMap_cons_none none, namesOf_cons_of_stays stays, ih noUp]
    · obtain ⟨notEmpty, notDot⟩ := not_or.mp stays
      have name : IsName part := ⟨notEmpty, notDot, notUp.symm⟩
      rw [List.filterMap_cons_some (inner?_of_isName name), namesOf_cons_of_isName name, ih noUp,
        List.map_cons]

theorem isName_of_head (noUp : ".." ∉ part :: rest) (notEmpty : (part :: rest).head? ≠ some "")
    (notDot : (part :: rest).head? ≠ some ".") : IsName part :=
  ⟨fun eq => notEmpty (congrArg some eq), fun eq => notDot (congrArg some eq),
    (List.ne_and_not_mem_of_not_mem_cons noUp).1.symm⟩

/-- Where parts do not go up and start with a name, the components are names. -/
theorem componentsOf_eq_map_name (noUp : ".." ∉ parts) (notEmpty : parts.head? ≠ some "")
    (notDot : parts.head? ≠ some ".") : componentsOf parts = (namesOf parts).map .name := by
  rw [← filterMap_inner? noUp]
  cases parts with
  | nil => rfl
  | cons part rest =>
    have name := isName_of_head noUp notEmpty notDot
    rw [componentsOf, List.filterMap_cons_some (inner?_of_isName name), first?,
      if_neg fun empty => name.1 empty.1, if_neg name.2.1, inner?_of_isName name]
    rfl

/-- Parts that follow others have components as inner parts. -/
theorem componentsOf_append (h : parts ≠ []) (behind : rest ≠ []) :
    componentsOf (parts ++ rest) = componentsOf (parts ++ [""]) ++ rest.filterMap inner? := by
  obtain ⟨part, more, rfl⟩ := List.exists_cons_of_ne_nil h
  have several : (more ++ rest).isEmpty = false := by simp [behind]
  have several' : (more ++ [""]).isEmpty = false := by simp
  rw [List.cons_append, List.cons_append, componentsOf, componentsOf, several, several',
    List.filterMap_append, List.filterMap_append]
  simp [inner?]

/-- A slash behind a path has no component. -/
theorem componentsOf_concat_empty (named : parts ≠ [""]) (h : parts ≠ []) :
    componentsOf (parts ++ [""]) = componentsOf parts := by
  obtain ⟨part, rest, rfl⟩ := List.exists_cons_of_ne_nil h
  rw [List.cons_append, componentsOf, componentsOf, List.filterMap_append]
  cases rest with
  | nil =>
    have notEmpty : part ≠ "" := fun eq => named (congrArg (fun part => [part]) eq)
    simp [first?, inner?, notEmpty]
  | cons other rest => simp [inner?]

/-- Components of names come from parts that do not go up, the first of which is a name unless it is
the only one. -/
theorem of_areNames (h : AreNames (componentsOf (part :: rest))) :
    ".." ∉ part :: rest ∧ part ≠ "." ∧ (part = "" → rest = []) := by
  have first : ∀ c ∈ first? part rest.isEmpty, ∃ text, c = .name text :=
    fun c mem => h c (List.mem_append_left _ (Option.mem_toList.mpr mem))
  have inner : ".." ∉ rest := by
    intro mem
    obtain ⟨text, eq⟩ := h .up (List.mem_append_right _ (List.mem_filterMap.mpr ⟨"..", mem, rfl⟩))
    cases eq
  refine ⟨?_, ?_, ?_⟩
  · rw [List.mem_cons, not_or]
    refine ⟨?_, inner⟩
    rintro rfl
    obtain ⟨text, eq⟩ := first .up (by simp [first?, inner?])
    cases eq
  · rintro rfl
    obtain ⟨text, eq⟩ := first .here (by simp [first?])
    cases eq
  · rintro rfl
    cases rest with
    | nil => rfl
    | cons other rest =>
      obtain ⟨text, eq⟩ := first .root (by simp [first?])
      cases eq

end Path

open SurveyDispatch.Path (components namesOf AreNames)

/-! ## Keys that name objects -/

variable {key root : String}

/-- A key has an empty part at its front if it is empty or starts with a slash. -/
theorem head?_segments_eq_empty_iff :
    (segments key).head? = some "" ↔ key = "" ∨ Text.startsWith key "/" = true := by
  have starts : Text.startsWith key ("" ++ "/") = true ↔ _ := startsWith_slash_iff
  rw [String.empty_append, segments_empty] at starts
  rw [starts]
  constructor
  · intro head
    obtain ⟨rest, parts⟩ := List.head?_eq_some_iff.mp head
    cases rest with
    | nil => exact .inl (segments_inj parts)
    | cons part rest => exact .inr ⟨part :: rest, List.cons_ne_nil part rest, parts⟩
  · rintro (rfl | ⟨rest, -, parts⟩)
    · rfl
    · rw [parts]
      rfl

/-- The first part of a key below the root is neither empty nor a dot, and no part goes up. -/
theorem isBelowRoot_iff :
    isBelowRoot key = true ↔
      (segments key).head? ≠ some "" ∧ (segments key).head? ≠ some "." ∧ ".." ∉ segments key := by
  simp [isBelowRoot, and_assoc]

/-- The keys that name objects are those with components, all of which are names. -/
theorem isBelowRoot_iff_components :
    isBelowRoot key = true ↔ key ≠ "" ∧ AreNames (components key) := by
  rw [isBelowRoot_iff]
  constructor
  · rintro ⟨notEmpty, notDot, noUp⟩
    refine ⟨fun empty => notEmpty (head?_segments_eq_empty_iff.mpr (.inl empty)), ?_⟩
    rw [components, Path.componentsOf_eq_map_name noUp notEmpty notDot]
    intro c mem
    obtain ⟨text, -, rfl⟩ := List.mem_map.mp mem
    exact ⟨text, rfl⟩
  · rintro ⟨named, areNames⟩
    obtain ⟨part, rest, parts⟩ := List.exists_cons_of_ne_nil (segments_ne_nil key)
    rw [components, parts] at areNames
    obtain ⟨noUp, notDot, single⟩ := Path.of_areNames areNames
    rw [parts]
    refine ⟨?_, fun head => notDot (Option.some.inj head), noUp⟩
    intro head
    cases head
    rw [single rfl] at parts
    exact named (segments_inj parts)

namespace FileTree

/-- Parts that do not go up lead down by their names. -/
theorem eq_of_follow {t : FileTree} {limits : Limits} {here there parts : List String}
    (noUp : ".." ∉ parts) (followed : t.follow limits here parts = .ok there) :
    there = here ++ namesOf parts := by
  induction parts generalizing here with
  | nil =>
    cases followed
    exact (List.append_nil _).symm
  | cons part rest ih =>
    obtain ⟨notUp, noUp⟩ := List.ne_and_not_mem_of_not_mem_cons noUp
    obtain ⟨entries, -, next⟩ := follow_cons_eq_ok_iff.mp followed
    rcases next with ⟨stays, next⟩ | ⟨up, -⟩ | ⟨name, -, next⟩
    · rw [Path.namesOf_cons_of_stays stays]
      exact ih noUp next
    · exact absurd up.symm notUp
    · rw [Path.namesOf_cons_of_isName name, ih noUp next, List.append_assoc]
      rfl

end FileTree

namespace FileSystem

variable {s : FileSystem} {place : List String}

/-- A path is made of just the keys below the root. -/
theorem objectPath_eq_ok_iff {path : String} :
    objectPath root key = .ok path ↔ isBelowRoot key = true ∧ path = join root key := by
  rw [objectPath]
  split
  next below => simp [below, eq_comm]
  next escapes => simp [escapes]

theorem objectPath_of_escapes (escapes : ¬ isBelowRoot key = true) :
    objectPath root key = .error (.invalidKey key) := if_neg escapes

theorem getObject_of_escapes (escapes : ¬ isBelowRoot key = true) :
    s.getObject root key = .error (.invalidKey key) := by
  rw [getObject, objectPath_of_escapes escapes]
  rfl

/-- The components of the path of a key are those of the root and the names of the key. -/
theorem components_join (below : isBelowRoot key = true) :
    components (join root key) = components root ++ (namesOf (segments key)).map .name := by
  obtain ⟨notEmpty, notDot, noUp⟩ := isBelowRoot_iff.mp below
  rw [components, components, segments_join]
  by_cases empty : root = ""
  · subst empty
    exact Path.componentsOf_eq_map_name noUp notEmpty notDot
  · rw [Path.componentsOf_append (rootParts_ne_nil empty) (segments_ne_nil key),
      Path.filterMap_inner? noUp]
    rcases rootParts_cases empty with ⟨front, rfl, parts⟩ | ⟨-, parts⟩
    · rw [parts, segments_append_slash]
    · have named : segments root ≠ [""] := fun eq => empty (segments_inj eq)
      rw [parts, Path.componentsOf_concat_empty named (segments_ne_nil root)]

/-! ## Where the paths of keys lead -/

/-- The path of a key leads nowhere but below the place of the root. -/
theorem follow_join (below : isBelowRoot key = true)
    (followed : s.follow (segments (join root key)) = .ok place) :
    ∃ base, s.follow (rootParts root) = .ok base ∧ place = base ++ namesOf (segments key) := by
  obtain ⟨notEmpty, -, noUp⟩ := isBelowRoot_iff.mp below
  rw [segments_join] at followed
  by_cases none : rootParts root = []
  · rw [none, List.nil_append, follow, if_neg notEmpty] at followed
    rw [none]
    exact ⟨s.here, rfl, FileTree.eq_of_follow noUp followed⟩
  · rw [follow_append none] at followed
    cases front : s.follow (rootParts root) with
    | error fault =>
      rw [front] at followed
      cases followed
    | ok base =>
      rw [front] at followed
      exact ⟨base, rfl, FileTree.eq_of_follow noUp followed⟩

/-- A key that names an object has a name. -/
theorem namesOf_ne_nil (below : isBelowRoot key = true) : namesOf (segments key) ≠ [] := by
  obtain ⟨notEmpty, notDot, noUp⟩ := isBelowRoot_iff.mp below
  obtain ⟨part, rest, parts⟩ := List.exists_cons_of_ne_nil (segments_ne_nil key)
  rw [parts] at notEmpty notDot noUp ⊢
  rw [Path.namesOf_cons_of_isName (Path.isName_of_head noUp notEmpty notDot)]
  exact List.cons_ne_nil part (namesOf rest)

/-- Which keys name objects, where their paths lead, and what becomes of all other keys. -/
theorem keys_stay_below (root key : String) :
    ((∃ path, objectPath root key = .ok path) ↔ key ≠ "" ∧ AreNames (components key)) ∧
      (key ≠ "" ∧ AreNames (components key) ↔
        key ≠ "" ∧ ¬ Text.startsWith key "/" = true ∧ (segments key).head? ≠ some "." ∧
          ".." ∉ segments key) ∧
      (∀ path, objectPath root key = .ok path →
        namesOf (segments key) ≠ [] ∧ (∀ name ∈ namesOf (segments key), IsName name) ∧
        components path = components root ++ (namesOf (segments key)).map .name ∧
        ∀ (s : FileSystem) place, s.follow (segments path) = .ok place →
          ∃ base, s.follow (rootParts root) = .ok base ∧ place = base ++ namesOf (segments key)) ∧
      ((∀ path, objectPath root key ≠ .ok path) → ∀ (files : FileSystem) (bytes : Bytes),
        let store : DirectoryStore := ⟨files, root⟩
        ObjectStore.get store key = .error (.invalidKey key) ∧
        ObjectStore.contains store key = .error (.invalidKey key) ∧
        ObjectStore.put store key bytes = (.error (.invalidKey key), store)) := by
  refine ⟨?_, ?_, ?_, ?_⟩
  · rw [← isBelowRoot_iff_components]
    simp [objectPath_eq_ok_iff]
  · have front : (segments key).head? ≠ some "" ↔ key ≠ "" ∧ ¬ Text.startsWith key "/" = true := by
      rw [ne_eq, head?_segments_eq_empty_iff, not_or]
    rw [← isBelowRoot_iff_components, isBelowRoot_iff, front, and_assoc]
  · intro path named
    obtain ⟨below, rfl⟩ := objectPath_eq_ok_iff.mp named
    have noUp := (isBelowRoot_iff.mp below).2.2
    exact ⟨namesOf_ne_nil below, fun name => Path.isName_of_mem_namesOf noUp, components_join below,
      fun s place => follow_join below⟩
  · intro refused files bytes
    have escapes : ¬ isBelowRoot key = true := fun below =>
      refused _ (objectPath_eq_ok_iff.mpr ⟨below, rfl⟩)
    have invalid : objectPath root key = .error (.invalidKey key) := objectPath_of_escapes escapes
    refine ⟨getObject_of_escapes escapes, ?_, ?_⟩
    · show containsObject files root key = _
      rw [containsObject, invalid]
      rfl
    · show (((putObject files root key bytes).1, _) : _ × DirectoryStore) = _
      rw [putObject, invalid]

end FileSystem

end SurveyDispatch
