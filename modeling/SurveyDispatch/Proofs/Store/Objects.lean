import Mathlib.Data.List.Induction
import SurveyDispatch.Proofs.Store.Places

/-!
# Objects in directories

The path of a key has the parts of its root in front of its own (`segments_join`).  So it leads
through the directory of the store down to the place that the key names there.

An object can be put if no file stands above its place and no directory is at it.  The directories
above it are made first, and those that are there already are kept.  In the end one file is put and
nothing else has changed (`LeadsTo.putObject_eq`).
-/

namespace SurveyDispatch.FileSystem

open Document (segments)
open FileTree (directory file)

variable {s : FileSystem} {path root key : String} {place : List String} {sub : FileTree}
  {entries : List (String × FileTree)}

/-! ## Roots and keys -/

/-- The parts of a root that stand in front of the parts of a key. -/
def rootParts (root : String) : List String :=
  if root.isEmpty || root.toList.getLast? == some '/' then (segments root).dropLast
  else segments root

theorem segments_append_slash (front : String) :
    segments (front ++ "/") = segments front ++ [""] := by
  have split := segments_slash front ""
  rwa [String.append_empty, segments_empty] at split

theorem eq_append_slash (h : root.toList.getLast? = some '/') :
    ∃ front, root = front ++ "/" := by
  obtain ⟨cs, split⟩ := List.getLast?_eq_some_iff.mp h
  refine ⟨String.ofList cs, ?_⟩
  rw [← String.toList_inj, split, String.toList_append, String.toList_ofList, toList_slash]

/-- A root has no more parts than that but for a slash at its end. -/
theorem rootParts_cases (h : root ≠ "") :
    (∃ front, root = front ++ "/" ∧ rootParts root = segments front) ∨
      root.toList.getLast? ≠ some '/' ∧ rootParts root = segments root := by
  have named : root.isEmpty = false := by simpa using h
  rw [rootParts, named, Bool.false_or]
  by_cases ends : root.toList.getLast? = some '/'
  · obtain ⟨front, split⟩ := eq_append_slash ends
    rw [if_pos (beq_iff_eq.mpr ends)]
    exact .inl ⟨front, split, by rw [split, segments_append_slash, List.dropLast_concat]⟩
  · rw [if_neg (by simpa using ends)]
    exact .inr ⟨ends, rfl⟩

theorem rootParts_ne_nil (h : root ≠ "") : rootParts root ≠ [] := by
  rcases rootParts_cases h with ⟨front, -, parts⟩ | ⟨-, parts⟩
  · rw [parts]
    exact segments_ne_nil front
  · rw [parts]
    exact segments_ne_nil root

/-- The path of a key has the parts of the root and then those of the key. -/
theorem segments_join (root key : String) :
    segments (join root key) = rootParts root ++ segments key := by
  by_cases empty : root = ""
  · subst empty
    rw [join, rootParts]
    simp
  · have named : root.isEmpty = false := by simpa using empty
    rw [join, named, Bool.false_or]
    rcases rootParts_cases empty with ⟨front, rfl, parts⟩ | ⟨ends, parts⟩
    · have ends : (front ++ "/").toList.getLast? = some '/' := by
        rw [String.toList_append, toList_slash, List.getLast?_concat]
      rw [if_pos (beq_iff_eq.mpr ends), segments_slash, parts]
    · rw [if_neg (by simpa using ends), segments_slash, parts]

/-- A slash at the end of a root makes no difference. -/
theorem follow_segments_iff (named : root ≠ "")
    (there : s.root.at? place = some (directory entries)) :
    s.follow (segments root) = .ok place ↔ s.follow (rootParts root) = .ok place := by
  rcases rootParts_cases named with ⟨front, rfl, parts⟩ | ⟨-, parts⟩
  · rw [parts, segments_append_slash, follow_append (segments_ne_nil front)]
    cases s.follow (segments front) with
    | error fault => exact Iff.rfl
    | ok here =>
      dsimp only [Except.bind]
      constructor
      · intro followed
        rw [FileTree.eq_of_follow_stays (.inl rfl) followed]
      · intro same
        cases same
        exact FileTree.follow_cons_eq_ok_iff.mpr ⟨entries, there, .inl ⟨.inl rfl, rfl⟩⟩
  · rw [parts]

/-- The file system takes the path of a key and the names in it. -/
structure Accepts (s : FileSystem) (root key : String) : Prop where
  path : s.pathFault? (join root key) = none
  names : ∀ name ∈ segments key, name.utf8ByteSize ≤ s.limits.name

instance (s : FileSystem) (root key : String) : Decidable (s.Accepts root key) :=
  decidable_of_iff (s.pathFault? (join root key) = none ∧
      ∀ name ∈ segments key, name.utf8ByteSize ≤ s.limits.name)
    ⟨fun h => ⟨h.1, h.2⟩, fun h => ⟨h.1, h.2⟩⟩

/-- The file system takes names that lead down. -/
def Takes (s : FileSystem) (names : List String) : Prop :=
  ∀ name ∈ names, IsName name ∧ name.utf8ByteSize ≤ s.limits.name

theorem Accepts.takes (accepts : s.Accepts root key) (clean : CleanKey key) :
    s.Takes (segments key) :=
  fun name mem => ⟨clean.names name mem, accepts.names name mem⟩

theorem Accepts.of_limits {s' : FileSystem} (h : s.Accepts root key) (same : s'.limits = s.limits) :
    s'.Accepts root key := by
  obtain ⟨path, names⟩ := h
  refine ⟨?_, by rwa [same]⟩
  rwa [pathFault?, same]

/-- The root of a store leads to a place and what is there. -/
structure LeadsTo (s : FileSystem) (root : String) (place : List String) (sub : FileTree) :
    Prop where
  named : root ≠ ""
  followed : s.follow (rootParts root) = .ok place
  there : s.root.at? place = some sub

/-- A directory is found at a root if the root leads there. -/
theorem find_eq_directory_iff :
    s.find root = .ok (directory entries) ↔
      s.pathFault? root = none ∧ ∃ place, s.LeadsTo root place (directory entries) := by
  rw [find, partsOf]
  constructor
  · intro h
    cases fault : s.pathFault? root with
    | some fault' =>
      rw [fault] at h
      cases h
    | none =>
      rw [fault] at h
      dsimp only [bind, Except.bind] at h
      have named : root ≠ "" := (pathFault?_eq_none_iff.mp fault).2.1
      cases followed : s.follow (segments root) with
      | error fault' =>
        rw [followed] at h
        cases h
      | ok place =>
        rw [followed] at h
        dsimp only at h
        cases there : s.root.at? place with
        | none =>
          rw [there] at h
          cases h
        | some node =>
          rw [there] at h
          cases h
          exact ⟨rfl, place, named, (follow_segments_iff named there).mp followed, there⟩
  · rintro ⟨fine, place, lead⟩
    rw [fine]
    dsimp only [bind, Except.bind]
    rw [(follow_segments_iff lead.named lead.there).mpr lead.followed]
    dsimp only
    rw [lead.there]

namespace LeadsTo

variable {dirs names : List String} {name : String}

/-- Below the root, a clean path leads where its names do. -/
theorem follow_names (lead : s.LeadsTo root place sub) (clean : s.Takes names)
    (pass : sub.Passable names) :
    s.follow (rootParts root ++ names) =
      match sub.at? names with
      | some _ => .ok (place ++ names)
      | none => .error .notFound := by
  rw [follow_append (rootParts_ne_nil lead.named), lead.followed]
  exact FileTree.follow_names lead.there pass clean

theorem followToDirectory (lead : s.LeadsTo root place sub) (clean : s.Takes dirs)
    (pass : sub.Passable dirs) (there : sub.at? dirs = some (directory entries)) :
    s.followToDirectory (rootParts root ++ dirs) = .ok (place ++ dirs, entries) := by
  rw [FileSystem.followToDirectory, lead.follow_names clean pass, there]
  dsimp only [bind, Except.bind]
  rw [FileTree.at?_append, lead.there, Option.bind_some, there]
  rfl

/-- What is put below the root is put below it alone. -/
theorem insertAt (lead : s.LeadsTo root place sub) (node : FileTree)
    (free : ∀ entries, sub.at? names ≠ some (directory entries)) :
    (s.insertAt (place ++ names) node).LeadsTo root place (sub.insertAt names node) := by
  have grows : s.root.GrowsInto (s.root.insertAt (place ++ names) node) := by
    refine FileTree.growsInto_insertAt fun entries there => free entries ?_
    rwa [FileTree.at?_append, lead.there] at there
  exact ⟨lead.named, grows.follow lead.followed, FileTree.at?_insertAt_append lead.there names⟩

theorem insertAt_of_missing (lead : s.LeadsTo root place sub) (missing : sub.at? names = none) :
    (s.insertAt (place ++ names) .empty).LeadsTo root place (sub.insertAt names .empty) := by
  refine lead.insertAt .empty fun entries there => ?_
  rw [missing] at there
  cases there

/-- A directory that is made on the way makes no difference. -/
theorem insertAt_insertAt {node : FileTree} (lead : s.LeadsTo root place sub)
    (missing : sub.at? dirs = none) (below : List String) :
    (s.insertAt (place ++ dirs) .empty).insertAt (place ++ (dirs ++ below)) node =
      s.insertAt (place ++ (dirs ++ below)) node := by
  have absent : s.root.at? (place ++ dirs) = none := by
    rw [FileTree.at?_append, lead.there, Option.bind_some, missing]
  rw [FileSystem.insertAt, FileSystem.insertAt, FileSystem.insertAt, ← List.append_assoc]
  dsimp only
  rw [FileTree.insertAt_insertAt absent below]

/-! ## Putting objects -/

/-- Making a directory fails where the one above it is missing. -/
theorem makeDirectory_of_missing (lead : s.LeadsTo root place sub) (clean : s.Takes dirs)
    (fine : s.pathFault? (pathOf (rootParts root ++ dirs ++ [name])) = none)
    (pass : sub.Passable dirs) (missing : sub.at? dirs = none) :
    s.makeDirectory (rootParts root ++ dirs ++ [name]) = .error .notFound := by
  rw [makeDirectory, fine, List.getLast?_concat, List.dropLast_concat,
    FileSystem.followToDirectory, lead.follow_names clean pass, missing]
  rfl

theorem makeDirectory_of_there (lead : s.LeadsTo root place sub) (clean : s.Takes (dirs ++ [name]))
    (fine : s.pathFault? (pathOf (rootParts root ++ dirs ++ [name])) = none)
    (there : sub.at? dirs = some (directory entries)) (missing : entries.lookup name = none) :
    s.makeDirectory (rootParts root ++ dirs ++ [name]) =
      .ok (s.insertAt (place ++ (dirs ++ [name])) .empty) := by
  obtain ⟨clean, last⟩ := List.forall_mem_append.mp clean
  obtain ⟨⟨notEmpty, notDot, notUp⟩, short⟩ := last name (List.mem_singleton_self name)
  have special : ¬ (name = "" ∨ name = "." ∨ name = "..") :=
    not_or.mpr ⟨notEmpty, not_or.mpr ⟨notDot, notUp⟩⟩
  rw [makeDirectory, fine, List.getLast?_concat, List.dropLast_concat]
  dsimp only
  rw [lead.followToDirectory clean (FileTree.passable_of_at? there) there]
  dsimp only [bind, Except.bind]
  rw [if_neg special, FileTree.childOf, missing, if_neg (Nat.not_lt.mpr short), List.append_assoc]

theorem makeDirectories_of_there (lead : s.LeadsTo root place sub)
    (fine : s.pathFault? path = none) (clean : s.Takes dirs)
    (front : rootParts root ++ dirs <+: segments path)
    (there : sub.at? dirs = some (directory entries)) :
    s.makeDirectories (rootParts root ++ dirs).reverse = (.ok (), s) := by
  have found : s.root.at? (place ++ dirs) = some (directory entries) := by
    rw [FileTree.at?_append, lead.there, Option.bind_some, there]
  refine makeDirectories_of_follow fine found ?_ (by rwa [List.reverse_reverse]) ?_
  · intro empty
    have empty := List.reverse_eq_nil_iff.mp empty
    exact rootParts_ne_nil lead.named (List.append_eq_nil_iff.mp empty).1
  · rw [List.reverse_reverse, lead.follow_names clean (FileTree.passable_of_at? there), there]

/-- The directories above an object are made if they are missing, and nothing else changes. -/
theorem makeDirectories_of_missing (lead : s.LeadsTo root place sub)
    (fine : s.pathFault? path = none) (clean : s.Takes dirs)
    (front : rootParts root ++ dirs <+: segments path)
    (pass : sub.Passable dirs) (missing : sub.at? dirs = none) :
    s.makeDirectories (rootParts root ++ dirs).reverse =
      (.ok (), s.insertAt (place ++ dirs) .empty) := by
  induction dirs using List.reverseRecOn with
  | nil =>
    rw [FileTree.at?_nil] at missing
    cases missing
  | append_singleton above last ih =>
    obtain ⟨clean', rest⟩ := List.forall_mem_append.mp clean
    have goes : stays last = false := stays_of_isName (rest last (List.mem_singleton_self last)).1
    have front' : rootParts root ++ above ++ [last] <+: segments path := by
      rwa [List.append_assoc]
    have fine' := pathFault?_pathOf fine
      (List.append_ne_nil_of_right_ne_nil _ (List.cons_ne_nil last [])) front'
    have parts : (last :: (rootParts root ++ above).reverse).reverse =
        rootParts root ++ above ++ [last] := by
      rw [List.reverse_cons, List.reverse_reverse]
    rw [← List.append_assoc, List.reverse_append, List.reverse_singleton, List.singleton_append,
      FileSystem.makeDirectories, goes, Bool.false_and, if_neg Bool.false_ne_true, parts]
    dsimp only
    cases there : sub.at? above with
    | some node =>
      obtain ⟨entries, rfl⟩ := pass.directory (List.cons_ne_nil last []) there
      rw [FileTree.at?_append, there, Option.bind_some, FileTree.at?_singleton] at missing
      rw [ensureDirectory, lead.makeDirectory_of_there clean fine' there missing]
    | none =>
      -- The directory above is made first, and then there is nothing in it.
      rw [lead.makeDirectory_of_missing clean' fine' pass.front there,
        ih clean' ((List.prefix_append _ _).trans front') pass.front there]
      dsimp only
      have lead' := lead.insertAt_of_missing there
      have made := lead'.makeDirectory_of_there clean fine'
        (FileTree.at?_insertAt_self pass.front) rfl
      rw [ensureDirectory, made]
      dsimp only
      rw [insertAt_insertAt lead there]

/-- A file is written below a directory that is there. -/
theorem write (lead : s.LeadsTo root place sub) (fine : s.pathFault? path = none)
    (parts : segments path = rootParts root ++ dirs ++ [name]) (clean : s.Takes (dirs ++ [name]))
    (there : sub.at? dirs = some (directory entries))
    (free : ∀ found, entries.lookup name ≠ some (directory found)) (bytes : Bytes) :
    s.write path bytes = .ok (s.insertAt (place ++ (dirs ++ [name])) (file bytes)) := by
  obtain ⟨clean, last⟩ := List.forall_mem_append.mp clean
  obtain ⟨isName, short⟩ := last name (List.mem_singleton_self name)
  rw [FileSystem.write, partsOf, fine, parts]
  dsimp only [bind, Except.bind]
  rw [writeParts, List.getLast?_concat, List.dropLast_concat]
  dsimp only
  rw [stays_of_isName isName, if_neg Bool.false_ne_true,
    lead.followToDirectory clean (FileTree.passable_of_at? there) there]
  dsimp only [bind, Except.bind]
  rw [FileTree.childOf, ← List.append_assoc]
  cases found : entries.lookup name with
  | none =>
    dsimp only
    rw [if_neg (Nat.not_lt.mpr short)]
  | some child =>
    cases child with
    | file content => rfl
    | directory below => exact absurd found (free below)

/-! ## Objects under clean keys -/

theorem objectPath_of_cleanKey (clean : CleanKey key) :
    objectPath root key = .ok (join root key) := by
  rw [objectPath, if_pos clean.isBelowRoot]

/-- Putting an object puts a file at the place of its key. -/
theorem putObject_eq (lead : s.LeadsTo root place sub) (clean : CleanKey key)
    (accepts : s.Accepts root key) (pass : sub.Passable (segments key))
    (free : ∀ entries, sub.at? (segments key) ≠ some (directory entries)) (bytes : Bytes) :
    s.putObject root key bytes = (.ok (), s.insertAt (place ++ segments key) (file bytes)) := by
  have takes := accepts.takes clean
  have parts := segments_join root key
  obtain ⟨dirs, name, split⟩ := (List.eq_nil_or_concat (segments key)).resolve_left
    (segments_ne_nil key)
  rw [List.concat_eq_append] at split
  rw [split] at takes parts pass free ⊢
  -- The file has the last name, and its directory has the names before it.
  rw [← List.append_assoc] at parts
  obtain ⟨takesDirs, last⟩ := List.forall_mem_append.mp takes
  have front : rootParts root ++ dirs <+: segments (join root key) :=
    parts ▸ List.prefix_append _ _
  have dirsOf : above (join root key) = (rootParts root ++ dirs).reverse := by
    have goes : ¬ stays name = true := by
      rw [stays_of_isName (last name (List.mem_singleton_self name)).1]
      exact Bool.false_ne_true
    rw [above, parts, List.reverse_append, List.reverse_singleton, List.singleton_append,
      List.dropWhile_cons_of_neg goes, List.tail_cons]
  rw [putObject, objectPath_of_cleanKey clean]
  dsimp only
  rw [dirsOf]
  cases there : sub.at? dirs with
  | some node =>
    obtain ⟨entries, rfl⟩ := pass.directory (List.cons_ne_nil name []) there
    have free : ∀ found, entries.lookup name ≠ some (directory found) := by
      intro found below
      refine free found ?_
      rw [FileTree.at?_append, there, Option.bind_some, FileTree.at?_singleton, below]
    rw [lead.makeDirectories_of_there accepts.path takesDirs front there]
    dsimp only
    rw [lead.write accepts.path parts takes there free]
  | none =>
    rw [lead.makeDirectories_of_missing accepts.path takesDirs front pass.front there]
    dsimp only
    have lead' := lead.insertAt_of_missing there
    have written := lead'.write accepts.path parts takes (FileTree.at?_insertAt_self pass.front)
      nofun bytes
    rw [written]
    dsimp only
    rw [insertAt_insertAt lead there]

/-- The path of a key leads to what is at the place of the key. -/
theorem find_join (lead : s.LeadsTo root place sub) (clean : CleanKey key)
    (accepts : s.Accepts root key) (pass : sub.Passable (segments key)) :
    s.find (join root key) =
      match sub.at? (segments key) with
      | some node => .ok node
      | none => .error .notFound := by
  rw [find, partsOf, accepts.path, segments_join]
  dsimp only [bind, Except.bind]
  rw [lead.follow_names (accepts.takes clean) pass]
  cases there : sub.at? (segments key) with
  | none => rfl
  | some node =>
    dsimp only
    rw [FileTree.at?_append, lead.there, Option.bind_some, there]

/-- A key whose names lead to a file has its content. -/
theorem getObject_of_file (lead : s.LeadsTo root place sub) (clean : CleanKey key)
    (accepts : s.Accepts root key) {bytes : Bytes}
    (there : sub.at? (segments key) = some (file bytes)) :
    s.getObject root key = .ok bytes ∧ s.containsObject root key = .ok true := by
  have found := lead.find_join clean accepts (FileTree.passable_of_at? there)
  rw [there] at found
  rw [getObject, containsObject, objectPath_of_cleanKey clean]
  dsimp only [bind, Except.bind, read]
  rw [found]
  exact ⟨rfl, rfl⟩

/-- A key whose names lead nowhere is not found. -/
theorem getObject_of_missing (lead : s.LeadsTo root place sub) (clean : CleanKey key)
    (accepts : s.Accepts root key) (pass : sub.Passable (segments key))
    (missing : sub.at? (segments key) = none) :
    s.getObject root key = .error (.notFound key) ∧ s.containsObject root key = .ok false := by
  have found := lead.find_join clean accepts pass
  rw [missing] at found
  rw [getObject, containsObject, objectPath_of_cleanKey clean]
  dsimp only [bind, Except.bind, read]
  rw [found]
  exact ⟨rfl, rfl⟩

end LeadsTo

end SurveyDispatch.FileSystem
