import SurveyDispatch.Proofs.Store.Trees

/-!
# Following the paths of keys

The path of a key leads from the root of a store, part by part, to the place that has the parts of
the key for names (`FileSystem.LeadsTo.find_join`).  On the way to a new object its directories are
made, and what was there before stays.  So putting an object is putting a file at the place of its
key (`FileSystem.LeadsTo.putObject_eq`).
-/

namespace SurveyDispatch

open Document (segments)

namespace FileTree

variable {t t' : FileTree} {limits : Limits} {here there : List String}
  {entries : List (String × FileTree)}

/-! ## Following parts -/

/-- Each part needs a directory to stand in, and leads where its name says. -/
theorem follow_cons_eq_ok_iff {part : String} {rest : List String} :
    t.follow limits here (part :: rest) = .ok there ↔
      ∃ entries, t.at? here = some (directory entries) ∧
        ((part = "" ∨ part = ".") ∧ t.follow limits here rest = .ok there ∨
          part = ".." ∧ t.follow limits here.dropLast rest = .ok there ∨
          IsName part ∧ (∃ child, entries.lookup part = some child) ∧
            t.follow limits (here ++ [part]) rest = .ok there) := by
  rw [follow]
  cases found : t.at? here with
  | none => simp
  | some node =>
    cases node with
    | file content => simp [entries?]
    | directory entries =>
      by_cases same : part = "" ∨ part = "."
      · have other : ¬ part = ".." := by rintro rfl; simp at same
        have noName : ¬ IsName part := fun name => same.elim name.1 name.2.1
        simp [entries?, same, other, noName]
      · by_cases up : part = ".."
        · subst up
          simp [entries?, IsName]
        · have name : IsName part := ⟨fun h => same (.inl h), fun h => same (.inr h), up⟩
          cases child : entries.lookup part <;> simp [entries?, childOf, same, up, name, child]

theorem eq_of_follow_stays {part : String} (stays : part = "" ∨ part = ".")
    (followed : t.follow limits here [part] = .ok there) : here = there := by
  obtain ⟨_, -, next⟩ := follow_cons_eq_ok_iff.mp followed
  rcases next with ⟨-, next⟩ | ⟨up, -⟩ | ⟨name, -⟩
  · cases next
    rfl
  · subst up
    simp at stays
  · exact (stays.elim name.1 name.2.1).elim

theorem follow_append (parts rest : List String) :
    t.follow limits here (parts ++ rest) =
      (t.follow limits here parts).bind fun there => t.follow limits there rest := by
  induction parts generalizing here with
  | nil => rfl
  | cons part parts ih =>
    rw [List.cons_append, follow, follow]
    cases (t.at? here).bind entries? with
    | none => rfl
    | some entries =>
      dsimp only
      rw [ih, ih, ih]
      split
      · rfl
      · split
        · rfl
        · cases childOf limits entries part <;> rfl

/-- Names lead down as far as something is there. -/
theorem follow_names {sub : FileTree} {names : List String} (h : t.at? here = some sub)
    (pass : sub.Passable names)
    (clean : ∀ name ∈ names, IsName name ∧ name.utf8ByteSize ≤ limits.name) :
    t.follow limits here names =
      match sub.at? names with
      | some _ => .ok (here ++ names)
      | none => .error .notFound := by
  induction names generalizing here sub with
  | nil => rw [at?_nil, List.append_nil, follow]
  | cons name rest ih =>
    obtain ⟨⟨⟨notEmpty, notDot, notUp⟩, short⟩, clean⟩ := List.forall_mem_cons.mp clean
    obtain ⟨entries, rfl⟩ := pass.here
    have stays : ¬ (name = "" ∨ name = ".") := not_or.mpr ⟨notEmpty, notDot⟩
    rw [follow, h, Option.bind_some, entries?, at?_directory]
    dsimp only
    rw [if_neg stays, if_neg notUp, childOf]
    cases found : entries.lookup name with
    | none =>
      dsimp only [Option.bind_none]
      rw [if_neg (Nat.not_lt.mpr short)]
    | some child =>
      have below : t.at? (here ++ [name]) = some child := by
        rw [at?_append, h, Option.bind_some, at?_directory, found, Option.bind_some, at?_nil]
      rw [Option.bind_some, List.append_cons here name rest]
      exact ih below (pass.child found) clean

/-! ## Growing trees -/

/-- What is at a place of a tree is also in the later one, and a directory is a directory there. -/
def GrowsInto (t t' : FileTree) : Prop :=
  ∀ place found, t.at? place = some found →
    ∃ found', t'.at? place = some found' ∧
      ((∃ entries, found = directory entries) → ∃ entries, found' = directory entries)

theorem GrowsInto.directory (h : t.GrowsInto t') {place : List String}
    (there : t.at? place = some (directory entries)) :
    ∃ entries', t'.at? place = some (directory entries') := by
  obtain ⟨found, there', keeps⟩ := h place _ there
  obtain ⟨entries', rfl⟩ := keeps ⟨entries, rfl⟩
  exact ⟨entries', there'⟩

/-- Parts lead to the same place in a tree that has grown. -/
theorem GrowsInto.follow (h : t.GrowsInto t') {parts : List String}
    (followed : t.follow limits here parts = .ok there) :
    t'.follow limits here parts = .ok there := by
  induction parts generalizing here with
  | nil => exact followed
  | cons part rest ih =>
    rw [follow_cons_eq_ok_iff] at followed ⊢
    obtain ⟨entries, found, next⟩ := followed
    obtain ⟨entries', found'⟩ := h.directory found
    refine ⟨entries', found', ?_⟩
    rcases next with ⟨same, next⟩ | ⟨up, next⟩ | ⟨name, ⟨child, below⟩, next⟩
    · exact .inl ⟨same, ih next⟩
    · exact .inr (.inl ⟨up, ih next⟩)
    · have place : t.at? (here ++ [part]) = some child := by
        rw [at?_append, found, Option.bind_some, at?_directory, below, Option.bind_some, at?_nil]
      obtain ⟨child', place', -⟩ := h _ _ place
      rw [at?_append, found', Option.bind_some, at?_directory, Option.bind_eq_some_iff] at place'
      obtain ⟨child', below', -⟩ := place'
      exact .inr (.inr ⟨name, ⟨child', below'⟩, ih next⟩)

/-- A tree grows by what is put where no directory is. -/
theorem growsInto_insertAt {node : FileTree} {place : List String}
    (h : ∀ entries, t.at? place ≠ some (directory entries)) :
    t.GrowsInto (t.insertAt place node) := by
  intro other found there
  induction place generalizing t other with
  | nil =>
    rw [at?_nil] at h
    rw [insertAt_nil]
    cases t with
    | directory entries => exact absurd rfl (h entries)
    | file content =>
      cases other with
      | cons name rest => cases there
      | nil =>
        rw [at?_nil] at there
        cases there
        exact ⟨node, at?_nil, nofun⟩
  | cons name rest ih =>
    cases t with
    | file content => exact ⟨found, there, id⟩
    | directory entries =>
      rw [insertAt_directory]
      cases other with
      | nil =>
        rw [at?_nil] at there
        cases there
        exact ⟨_, at?_nil, fun _ => ⟨_, rfl⟩⟩
      | cons name' rest' =>
        rw [at?_directory] at there ⊢
        rw [lookup_insertEntry]
        by_cases same : name' = name
        · subst same
          rw [if_pos rfl, Option.bind_some]
          obtain ⟨child, below, there⟩ := Option.bind_eq_some_iff.mp there
          rw [below, Option.getD_some]
          refine ih ?_ rest' there
          intro entries' place
          exact h entries' (by rw [at?_directory, below, Option.bind_some, place])
        · rw [if_neg same]
          exact ⟨found, there, id⟩

end FileTree

namespace FileSystem

open FileTree (directory)

variable {s : FileSystem} {path root key : String} {place parts : List String}
  {entries : List (String × FileTree)} {sub : FileTree}

/-! ## Paths and their fronts -/

/-- A path is fine if it is not empty, holds no zero character and is not too long. -/
theorem pathFault?_eq_none_iff :
    s.pathFault? path = none ↔
      '\x00' ∉ path.toList ∧ path ≠ "" ∧ path.utf8ByteSize < s.limits.path := by
  rw [pathFault?]
  by_cases null : '\x00' ∈ path.toList
  · simp [null]
  · by_cases empty : path = ""
    · simp [empty]
    · by_cases long : s.limits.path ≤ path.utf8ByteSize
      · simp [null, empty, long]
      · simp [null, empty, long]
        omega

theorem segments_pathOf (names : ∀ part ∈ parts, IsPart part) (h : parts ≠ []) :
    segments (pathOf parts) = if parts = [""] then ["", ""] else parts := by
  rw [pathOf]
  by_cases empty : parts = [""]
  · rw [if_pos empty, if_pos empty]
    rfl
  · rw [if_neg empty, if_neg empty]
    exact segments_intercalate h names

theorem pathOf_ne_empty (names : ∀ part ∈ parts, IsPart part) (h : parts ≠ []) :
    pathOf parts ≠ "" := by
  intro empty
  have split := segments_pathOf names h
  rw [empty, segments_empty] at split
  by_cases one : parts = [""]
  · rw [if_pos one] at split
    cases split
  · rw [if_neg one] at split
    exact one split.symm

/-- A path begins with the path of its first parts. -/
theorem pathOf_append (named : path ≠ "") (h : parts ≠ []) (front : parts <+: segments path) :
    ∃ rest, path = pathOf parts ++ rest := by
  obtain ⟨rest, split⟩ := front
  cases rest with
  | nil =>
    rw [List.append_nil] at split
    have differ : parts ≠ [""] := by
      intro empty
      exact named (segments_inj (split.symm.trans empty))
    refine ⟨"", ?_⟩
    rw [pathOf, if_neg differ, split, intercalate_segments, String.append_empty]
  | cons part rest =>
    have joined : path = "/".intercalate parts ++ "/" ++ "/".intercalate (part :: rest) := by
      rw [← intercalate_segments path, ← split,
        String.intercalate_append_of_ne_nil h (List.cons_ne_nil part rest)]
    by_cases empty : parts = [""]
    · refine ⟨"/".intercalate (part :: rest), ?_⟩
      rw [joined, pathOf, if_pos empty, empty, String.intercalate_singleton, String.empty_append]
    · refine ⟨"/" ++ "/".intercalate (part :: rest), ?_⟩
      rw [joined, pathOf, if_neg empty, String.append_assoc]

/-- If a path can be followed, so can the paths of its first parts. -/
theorem pathFault?_pathOf (fine : s.pathFault? path = none) (h : parts ≠ [])
    (front : parts <+: segments path) : s.pathFault? (pathOf parts) = none := by
  rw [pathFault?_eq_none_iff] at fine ⊢
  obtain ⟨null, named, short⟩ := fine
  obtain ⟨rest, split⟩ := pathOf_append named h front
  rw [split] at null short
  rw [String.utf8ByteSize_append] at short
  refine ⟨?_, ?_, by omega⟩
  · intro mem
    exact null (by rw [String.toList_append]; exact List.mem_append_left _ mem)
  · exact pathOf_ne_empty (fun part mem => isPart_of_mem_segments (front.subset mem)) h

/-! ## Following the parts of paths -/

theorem follow_append (h : parts ≠ []) (rest : List String) :
    s.follow (parts ++ rest) =
      (s.follow parts).bind fun there => s.root.follow s.limits there rest := by
  have head : (parts ++ rest).head? = parts.head? := by
    cases parts with
    | nil => exact absurd rfl h
    | cons part parts => rfl
  rw [follow, follow, head, FileTree.follow_append]

theorem follow_concat {name : String} (h : parts ≠ [] ∨ name ≠ "") :
    s.follow (parts ++ [name]) =
      (s.follow parts).bind fun there => s.root.follow s.limits there [name] := by
  cases parts with
  | cons part parts => exact follow_append (List.cons_ne_nil part parts) [name]
  | nil =>
    have named : name ≠ "" := h.resolve_left fun h => h rfl
    simp [follow, named, FileTree.follow, Except.bind]

/-- What can be followed with one more part can be followed without it. -/
theorem follow_front {name : String} (h : s.follow (parts ++ [name]) = .ok place) :
    ∃ there, s.follow parts = .ok there := by
  cases parts with
  | nil => exact ⟨_, rfl⟩
  | cons part parts =>
    rw [follow_append (List.cons_ne_nil part parts)] at h
    cases front : s.follow (part :: parts) with
    | ok there => exact ⟨there, rfl⟩
    | error fault =>
      rw [front] at h
      cases h

/-- The path of parts that lead to a directory is the path of a directory. -/
theorem isDirectory_pathOf (fine : s.pathFault? path = none) (h : parts ≠ [])
    (front : parts <+: segments path) (followed : s.follow parts = .ok place)
    (there : s.root.at? place = some (directory entries)) :
    s.isDirectory (pathOf parts) = true := by
  have names : ∀ part ∈ parts, IsPart part :=
    fun part mem => isPart_of_mem_segments (front.subset mem)
  have followed : s.follow (segments (pathOf parts)) = .ok place := by
    rw [segments_pathOf names h]
    -- The path of the root has one empty part more, which stays there.
    by_cases empty : parts = [""]
    · subst empty
      rw [if_pos rfl]
      have again : s.follow ([""] ++ [""]) = .ok place := by
        rw [follow_append h, followed]
        exact FileTree.follow_cons_eq_ok_iff.mpr ⟨entries, there, .inl ⟨.inl rfl, rfl⟩⟩
      exact again
    · rw [if_neg empty]
      exact followed
  rw [isDirectory, find, partsOf, pathFault?_pathOf fine h front]
  dsimp only [bind, Except.bind]
  rw [followed]
  dsimp only
  rw [there]

/-! ## Directories that are there already -/

theorem stays_of_isName {name : String} (h : IsName name) : stays name = false := by
  obtain ⟨notEmpty, notDot, -⟩ := h
  simp [stays, notEmpty, notDot]

theorem makeDirectory_of_follow (h : parts ≠ []) (fine : s.pathFault? (pathOf parts) = none)
    (followed : s.follow parts = .ok place) :
    ∃ fault, fault ≠ .notFound ∧ s.makeDirectory parts = .error fault := by
  obtain ⟨front, name, rfl⟩ := (List.eq_nil_or_concat parts).resolve_left h
  rw [List.concat_eq_append] at *
  obtain ⟨there, front'⟩ := follow_front followed
  rw [makeDirectory, fine, List.getLast?_concat, List.dropLast_concat, followToDirectory, front']
  dsimp only [bind, Except.bind]
  cases found : (s.root.at? there).bind FileTree.entries? with
  | none => exact ⟨.notDirectory, nofun, rfl⟩
  | some entries =>
    refine ⟨.alreadyExists, nofun, ?_⟩
    dsimp only
    by_cases special : name = "" ∨ name = "." ∨ name = ".."
    · rw [if_pos special]
    · rw [if_neg special]
      rw [follow_concat (.inr fun empty => special (.inl empty)), front'] at followed
      obtain ⟨entries', found', next⟩ := FileTree.follow_cons_eq_ok_iff.mp followed
      rw [found', Option.bind_some, FileTree.entries?] at found
      cases found
      rcases next with ⟨same, -⟩ | ⟨up, -⟩ | ⟨-, ⟨child, below⟩, -⟩
      · exact absurd (same.imp_right .inl) special
      · exact absurd (.inr (.inr up)) special
      · rw [FileTree.childOf, below]

theorem makeDirectories_of_follow (fine : s.pathFault? path = none)
    (there : s.root.at? place = some (directory entries)) :
    ∀ {above : List String}, above ≠ [] → above.reverse <+: segments path →
      s.follow above.reverse = .ok place → s.makeDirectories above = (.ok (), s)
  | name :: above, h, front, followed => by
    have nonempty : (name :: above).reverse ≠ [] :=
      fun empty => h (List.reverse_eq_nil_iff.mp empty)
    rw [makeDirectories]
    by_cases skip : (stays name && !above.isEmpty) = true
    · -- The parts before a part that stays lead to the same place.
      rw [if_pos skip]
      obtain ⟨same, rest⟩ := Bool.and_eq_true_iff.mp skip
      have behind : above ≠ [] := by rintro rfl; cases rest
      have behind' : above.reverse ≠ [] := fun empty => behind (List.reverse_eq_nil_iff.mp empty)
      rw [List.reverse_cons] at front followed
      refine makeDirectories_of_follow fine there behind
        ((List.prefix_append _ _).trans front) ?_
      rw [follow_append behind'] at followed
      cases front' : s.follow above.reverse with
      | error fault =>
        rw [front'] at followed
        cases followed
      | ok here =>
        rw [front'] at followed
        rw [FileTree.eq_of_follow_stays (by simpa [stays] using same) followed]
    · -- The directory cannot be made again, but it is found.
      rw [if_neg skip]
      obtain ⟨fault, other, made⟩ :=
        makeDirectory_of_follow nonempty (pathFault?_pathOf fine nonempty front) followed
      have ensured : s.ensureDirectory (name :: above).reverse = (.ok (), s) := by
        rw [ensureDirectory, made, isDirectory_pathOf fine nonempty front followed there]
        rfl
      dsimp only
      rw [made]
      cases fault with
      | notFound => exact absurd rfl other
      | _ => exact ensured

end FileSystem

end SurveyDispatch
