import Mathlib.Data.List.Sort
import SurveyDispatch.Proofs.Store.Keys
import SurveyDispatch.Proofs.Store.Growth

/-!
# File trees and the objects in them

Putting a file at a place changes the files of a tree at that place only, as long as no file stands
above or below it (`at?_insertAt_file`).  Making the directories of the place first does not matter
(`insertAt_insertAt`).

The objects below a directory are its files, each under the key of its place, and every one is found
once (`mem_objectsOf_iff`, `nodup_objectsOf`).  Directories are left out only where no key can start
with the text that is asked for.
-/

namespace SurveyDispatch

theorem insertEntry_insertEntry {α : Type} (key : String) (value other : α) :
    ∀ entries : List (String × α),
      insertEntry key value (insertEntry key other entries) = insertEntry key value entries
  | [] => by simp [insertEntry]
  | (k, v) :: rest => by
    by_cases before : key < k
    · simp [insertEntry, before]
    · by_cases same : key = k
      · simp [insertEntry, same]
      · simp [insertEntry, before, same, insertEntry_insertEntry key value other rest]

namespace FileTree

variable {t node : FileTree} {entries : List (String × FileTree)}

/-- The entries of every directory ascend by name, and names hold no slashes. -/
inductive Sound : FileTree → Prop where
  | file (content : Bytes) : Sound (file content)
  | directory {entries : List (String × FileTree)} : Ascending entries →
      (∀ e ∈ entries, IsPart e.1) → (∀ e ∈ entries, Sound e.2) → Sound (directory entries)

theorem sound_empty : empty.Sound := .directory List.Pairwise.nil nofun nofun

/-! ## Places -/

theorem at?_nil : t.at? [] = some t := by
  cases t <;> rfl

theorem at?_file {content : Bytes} {name : String} {rest : List String} :
    (file content).at? (name :: rest) = none := rfl

theorem at?_directory {name : String} {rest : List String} :
    (directory entries).at? (name :: rest) = (entries.lookup name).bind (at? rest) := rfl

theorem at?_singleton {name : String} : (directory entries).at? [name] = entries.lookup name := by
  rw [at?_directory]
  cases entries.lookup name with
  | none => rfl
  | some child => exact at?_nil

theorem at?_empty {name : String} {rest : List String} : empty.at? (name :: rest) = none := rfl

theorem at?_append (above below : List String) :
    t.at? (above ++ below) = (t.at? above).bind (at? below) := by
  induction above generalizing t with
  | nil => rw [List.nil_append, at?_nil, Option.bind_some]
  | cons name rest ih =>
    cases t with
    | file content => rfl
    | directory entries =>
      rw [List.cons_append, at?_directory, at?_directory, Option.bind_assoc]
      cases entries.lookup name with
      | none => rfl
      | some child => exact ih

theorem Sound.at?_cons_iff (h : (FileTree.directory entries).Sound) {name : String}
    {rest : List String} {found : FileTree} :
    (FileTree.directory entries).at? (name :: rest) = some found ↔
      ∃ child, (name, child) ∈ entries ∧ child.at? rest = some found := by
  cases h with
  | directory ascending parts children =>
    rw [at?_directory, Option.bind_eq_some_iff]
    simp only [Dictionary.lookup_eq_some_iff ascending]

theorem Sound.of_at? (h : t.Sound) {place : List String} {found : FileTree}
    (there : t.at? place = some found) : found.Sound ∧ ∀ name ∈ place, IsPart name := by
  induction place generalizing t with
  | nil =>
    rw [at?_nil] at there
    cases there
    exact ⟨h, nofun⟩
  | cons name rest ih =>
    cases t with
    | file content => cases there
    | directory entries =>
      obtain ⟨child, mem, there⟩ := h.at?_cons_iff.mp there
      cases h with
      | directory ascending parts children =>
        obtain ⟨sound, names⟩ := ih (children _ mem) there
        exact ⟨sound, List.forall_mem_cons.mpr ⟨parts _ mem, names⟩⟩

/-! ## Putting something at a place -/

theorem insertAt_nil : t.insertAt [] node = node := by
  cases t <;> rfl

theorem insertAt_directory {name : String} {rest : List String} :
    (directory entries).insertAt (name :: rest) node =
      directory
        (insertEntry name (((entries.lookup name).getD empty).insertAt rest node) entries) := rfl

/-- Inserting a sound tree at names keeps a tree sound. -/
theorem Sound.insertAt (h : t.Sound) (sound : node.Sound) {place : List String}
    (names : ∀ name ∈ place, IsPart name) : (t.insertAt place node).Sound := by
  induction place generalizing t with
  | nil => rwa [insertAt_nil]
  | cons name rest ih =>
    obtain ⟨part, names⟩ := List.forall_mem_cons.mp names
    cases h with
    | file content => exact .file content
    | @directory entries ascending parts children =>
      have child : ((entries.lookup name).getD empty).Sound := by
        cases found : entries.lookup name with
        | none => exact sound_empty
        | some child => exact children _ ((Dictionary.lookup_eq_some_iff ascending).mpr found)
      rw [insertAt_directory]
      refine .directory (ascending_insertEntry ascending) ?_ ?_
      · intro e mem
        rcases mem_insertEntry mem with rfl | mem
        · exact part
        · exact parts e mem
      · intro e mem
        rcases mem_insertEntry mem with rfl | mem
        · exact ih child names
        · exact children e mem

/-- What is put below a directory is put below it alone. -/
theorem at?_insertAt_append {above : List String} {sub : FileTree} (h : t.at? above = some sub)
    (below : List String) :
    (t.insertAt (above ++ below) node).at? above = some (sub.insertAt below node) := by
  induction above generalizing t with
  | nil =>
    rw [at?_nil] at h
    cases h
    rw [List.nil_append, at?_nil]
  | cons name rest ih =>
    cases t with
    | file content => cases h
    | directory entries =>
      rw [at?_directory] at h
      cases found : entries.lookup name with
      | none => simp [found] at h
      | some child =>
        rw [found, Option.bind_some] at h
        rw [List.cons_append, insertAt_directory, at?_directory, lookup_insertEntry, if_pos rfl,
          found, Option.getD_some, Option.bind_some]
        exact ih h

/-- A directory that is made on the way makes no difference. -/
theorem insertAt_insertAt {above : List String} (h : t.at? above = none) (below : List String) :
    (t.insertAt above empty).insertAt (above ++ below) node = t.insertAt (above ++ below) node := by
  induction above generalizing t with
  | nil =>
    rw [at?_nil] at h
    cases h
  | cons name rest ih =>
    cases t with
    | file content => rfl
    | directory entries =>
      rw [List.cons_append, insertAt_directory, insertAt_directory, insertAt_directory,
        lookup_insertEntry, if_pos rfl, insertEntry_insertEntry, Option.getD_some]
      have same : (((entries.lookup name).getD empty).insertAt rest empty).insertAt
            (rest ++ below) node =
          ((entries.lookup name).getD empty).insertAt (rest ++ below) node := by
        rw [at?_directory] at h
        cases found : entries.lookup name with
        | some child =>
          rw [found, Option.bind_some] at h
          exact ih h
        | none =>
          cases rest with
          | nil => rw [insertAt_nil]; rfl
          | cons other rest => exact ih at?_empty
      rw [same]

theorem at?_getD_empty {child : Option FileTree} {place : List String} {content : Bytes} :
    (child.getD empty).at? place = some (file content) ↔
      child.bind (at? place) = some (file content) := by
  cases child with
  | some child => rfl
  | none =>
    cases place with
    | nil => simp [at?_nil, empty]
    | cons name rest => simp [at?_empty]

/-- No file stands above a place. -/
def Passable (t : FileTree) (place : List String) : Prop :=
  ∀ front rest content, front ++ rest = place → rest ≠ [] → t.at? front ≠ some (file content)

theorem Passable.front {place rest : List String} (h : t.Passable (place ++ rest)) :
    t.Passable place := by
  intro front later content split behind
  refine h front (later ++ rest) content (by rw [← split, List.append_assoc]) ?_
  exact List.append_ne_nil_of_left_ne_nil behind rest

theorem Passable.child {name : String} {rest : List String} {child : FileTree}
    (h : (directory entries).Passable (name :: rest)) (found : entries.lookup name = some child) :
    child.Passable rest := by
  intro front later content split behind there
  refine h (name :: front) later content (by rw [List.cons_append, split]) behind ?_
  rw [at?_directory, found]
  exact there

theorem passable_of_at? {place : List String} {found : FileTree} (h : t.at? place = some found) :
    t.Passable place := by
  intro front rest content split behind there
  rw [← split, at?_append, there, Option.bind_some] at h
  cases rest with
  | nil => exact behind rfl
  | cons name rest => cases h

theorem Passable.here {name : String} {rest : List String} (h : t.Passable (name :: rest)) :
    ∃ entries, t = directory entries := by
  cases t with
  | file content => exact absurd at?_nil (h [] _ content rfl (List.cons_ne_nil name rest))
  | directory entries => exact ⟨entries, rfl⟩

/-- What can be passed on the way is a directory. -/
theorem Passable.directory {place rest : List String} (h : t.Passable (place ++ rest))
    (behind : rest ≠ []) {found : FileTree} (there : t.at? place = some found) :
    ∃ entries, found = directory entries := by
  cases found with
  | file content => exact absurd there (h place rest content rfl behind)
  | directory entries => exact ⟨entries, rfl⟩

/-- What was inserted is found at its place, if nothing stood in the way. -/
theorem at?_insertAt_self {place : List String} (h : t.Passable place) :
    (t.insertAt place node).at? place = some node := by
  induction place generalizing t with
  | nil => rw [insertAt_nil, at?_nil]
  | cons name rest ih =>
    obtain ⟨entries, rfl⟩ := h.here
    rw [insertAt_directory, at?_directory, lookup_insertEntry, if_pos rfl, Option.bind_some]
    cases found : entries.lookup name with
    | some child => exact ih (h.child found)
    | none =>
      refine ih fun front later content _ _ there => ?_
      cases front with
      | nil => cases there
      | cons other front => cases there

/-- Only directories have files below them. -/
theorem at?_ne_file_of_not_directory {place : List String}
    (h : ∀ entries, t.at? place ≠ some (directory entries)) (rest : List String) (content : Bytes)
    (behind : rest ≠ []) : t.at? (place ++ rest) ≠ some (file content) := by
  intro there
  rw [at?_append] at there
  obtain ⟨node, above, there⟩ := Option.bind_eq_some_iff.mp there
  cases node with
  | directory entries => exact h entries above
  | file content =>
    cases rest with
    | nil => exact behind rfl
    | cons name rest => cases there

/-- The files of a tree after one was put at a place with no file above or below it. -/
theorem at?_insertAt_file {place other : List String} {content found : Bytes}
    (above : t.Passable place)
    (below : ∀ rest c, rest ≠ [] → t.at? (place ++ rest) ≠ some (file c)) :
    (t.insertAt place (file content)).at? other = some (file found) ↔
      if other = place then found = content else t.at? other = some (file found) := by
  induction place generalizing t other with
  | nil =>
    rw [insertAt_nil]
    cases other with
    | nil => simp [at?_nil, eq_comm]
    | cons name rest =>
      have nothing : t.at? (name :: rest) ≠ some (file found) :=
        below (name :: rest) found (List.cons_ne_nil name rest)
      simp [at?_file, nothing]
  | cons name rest ih =>
    cases t with
    | file c => exact absurd at?_nil (above [] (name :: rest) c rfl (List.cons_ne_nil name rest))
    | directory entries =>
      rw [insertAt_directory]
      cases other with
      | nil => simp [at?_nil]
      | cons name' rest' =>
        rw [at?_directory, at?_directory, lookup_insertEntry]
        -- Other entries stay as they were, and a child that is missing is as good as an empty one.
        by_cases same : name' = name
        · subst same
          rw [if_pos rfl, Option.bind_some, ih, at?_getD_empty]
          · simp
          · intro front later c split behind there
            refine above (name' :: front) later c (by rw [List.cons_append, split]) behind ?_
            rwa [at?_directory, ← at?_getD_empty]
          · intro later c behind there
            refine below later c behind ?_
            rwa [List.cons_append, at?_directory, ← at?_getD_empty]
        · rw [if_neg same, if_neg]
          intro both
          exact same (List.cons.inj both).1

/-- Putting a file makes no directories but those above it. -/
theorem at?_insertAt_file_directory {place other : List String} {content : Bytes}
    {found : List (String × FileTree)}
    (h : (t.insertAt place (file content)).at? other = some (directory found)) :
    (∃ rest, rest ≠ [] ∧ other ++ rest = place) ∨
      ∃ entries, t.at? other = some (directory entries) := by
  induction place generalizing t other with
  | nil =>
    rw [insertAt_nil] at h
    cases other with
    | nil => cases h
    | cons name rest => cases h
  | cons name rest ih =>
    cases t with
    | file c => exact .inr ⟨found, h⟩
    | directory entries =>
      rw [insertAt_directory] at h
      cases other with
      | nil => exact .inl ⟨name :: rest, List.cons_ne_nil name rest, rfl⟩
      | cons name' rest' =>
        rw [at?_directory, lookup_insertEntry] at h
        by_cases same : name' = name
        · subst same
          rw [if_pos rfl, Option.bind_some] at h
          rcases ih h with ⟨later, behind, split⟩ | ⟨entries', there⟩
          · exact .inl ⟨later, behind, by rw [List.cons_append, split]⟩
          · cases child : entries.lookup name' with
            | some child' =>
              rw [child] at there
              exact .inr ⟨entries', by rw [at?_directory, child]; exact there⟩
            | none =>
              -- The child is made on the way, unless the file itself is put there.
              rw [child] at there h
              cases rest' with
              | cons other later => cases there
              | nil =>
                cases rest with
                | nil => cases h
                | cons other later => exact .inl ⟨other :: later, List.cons_ne_nil _ _, rfl⟩
        · rw [if_neg same] at h
          exact .inr ⟨found, h⟩

/-! ## The objects below a directory -/

/-- Of two fronts of a text, one is a front of the other. -/
theorem startsWith_or_startsWith {text front key : String} (h : Text.startsWith text front = true)
    (h' : Text.startsWith text key = true) :
    (Text.startsWith key front || Text.startsWith front key) = true := by
  rw [Bool.or_eq_true]
  rw [Text.startsWith_iff] at *
  rw [Text.startsWith_iff]
  exact List.prefix_or_prefix_of_prefix h h'

mutual

/-- The objects at a key are the files there and below, under the keys of their places. -/
theorem mem_objectsAt_iff (front : String) {object : String × Bytes} :
    ∀ (t : FileTree) (key : String), t.Sound →
      (object ∈ objectsAt front key t ↔ Text.startsWith object.1 front = true ∧
        ∃ names, t.at? names = some (file object.2) ∧ object.1 = "/".intercalate (key :: names))
  | file content, key, _ => by
    rw [objectsAt]
    constructor
    · intro mem
      by_cases starts : Text.startsWith key front = true
      · rw [if_pos starts, List.mem_singleton] at mem
        subst mem
        exact ⟨starts, [], at?_nil, String.intercalate_singleton.symm⟩
      · rw [if_neg starts] at mem
        cases mem
    · rintro ⟨starts, names, there, same⟩
      cases names with
      | cons name rest => cases there
      | nil =>
        rw [at?_nil] at there
        cases there
        rw [String.intercalate_singleton] at same
        rw [← same, if_pos starts]
        exact List.mem_singleton_self _
  | directory entries, key, .directory ascending parts children => by
    have named : (∃ names, (directory entries).at? names = some (file object.2) ∧
          object.1 = "/".intercalate (key :: names)) ↔
        ∃ e ∈ entries, ∃ names, e.2.at? names = some (file object.2) ∧
          object.1 = key ++ "/" ++ "/".intercalate (e.1 :: names) := by
      have sound : (directory entries).Sound := .directory ascending parts children
      constructor
      · rintro ⟨names, there, same⟩
        cases names with
        | nil =>
          rw [at?_nil] at there
          cases there
        | cons name rest =>
          obtain ⟨child, mem, there⟩ := sound.at?_cons_iff.mp there
          exact ⟨(name, child), mem, rest, there, by rw [same, String.intercalate_cons_cons]⟩
      · rintro ⟨e, mem, rest, there, same⟩
        exact ⟨e.1 :: rest, sound.at?_cons_iff.mpr ⟨e.2, mem, there⟩,
          by rw [same, String.intercalate_cons_cons]⟩
    rw [objectsAt, named]
    by_cases entered :
        (Text.startsWith (key ++ "/") front || Text.startsWith front (key ++ "/")) = true
    · rw [if_pos entered]
      exact mem_objectsOf_iff front entries (key ++ "/") children
    · -- No key below the directory starts with the front.
      rw [if_neg entered]
      constructor
      · intro mem
        cases mem
      · rintro ⟨starts, e, mem, names, there, same⟩
        refine absurd (startsWith_or_startsWith starts ?_) entered
        rw [same]
        exact Text.startsWith_append _ _

/-- The objects of entries are the files there and below. -/
theorem mem_objectsOf_iff (front : String) {object : String × Bytes} :
    ∀ (entries : List (String × FileTree)) (start : String), (∀ e ∈ entries, e.2.Sound) →
      (object ∈ objectsOf front start entries ↔ Text.startsWith object.1 front = true ∧
        ∃ e ∈ entries, ∃ names, e.2.at? names = some (file object.2) ∧
          object.1 = start ++ "/".intercalate (e.1 :: names))
  | [], start, _ => by simp [objectsOf]
  | (name, node) :: rest, start, sound => by
    obtain ⟨here, sound⟩ := List.forall_mem_cons.mp sound
    rw [objectsOf, List.mem_append, mem_objectsAt_iff front node (start ++ name) here,
      mem_objectsOf_iff front rest start sound]
    simp only [List.exists_mem_cons_iff, String.intercalate_cons_append, ← and_or_left]

end

/-- The name of the entry that an object is found below can be read off its key. -/
theorem name_unique {start : String} {e e' : String × FileTree} {names names' : List String}
    {found found' : FileTree} (part : IsPart e.1) (part' : IsPart e'.1) (sound : e.2.Sound)
    (sound' : e'.2.Sound) (there : e.2.at? names = some found)
    (there' : e'.2.at? names' = some found')
    (same : start ++ "/".intercalate (e.1 :: names) = start ++ "/".intercalate (e'.1 :: names')) :
    e.1 = e'.1 := by
  have parts : e.1 :: names = e'.1 :: names' := by
    rw [← segments_intercalate (List.cons_ne_nil e.1 names)
        (List.forall_mem_cons.mpr ⟨part, (sound.of_at? there).2⟩),
      ← segments_intercalate (List.cons_ne_nil e'.1 names')
        (List.forall_mem_cons.mpr ⟨part', (sound'.of_at? there').2⟩)]
    rw [String.append_right_inj] at same
    rw [same]
  exact (List.cons.inj parts).1

mutual

/-- No key is found twice. -/
theorem nodup_objectsAt (front : String) : ∀ (t : FileTree) (key : String), t.Sound →
    ((objectsAt front key t).map Prod.fst).Nodup
  | file content, key, _ => by
    rw [objectsAt]
    by_cases starts : Text.startsWith key front = true
    · rw [if_pos starts]
      exact List.nodup_singleton key
    · rw [if_neg starts]
      exact List.nodup_nil
  | directory entries, key, .directory ascending parts children => by
    rw [objectsAt]
    by_cases entered :
        (Text.startsWith (key ++ "/") front || Text.startsWith front (key ++ "/")) = true
    · rw [if_pos entered]
      exact nodup_objectsOf front entries (key ++ "/") ascending parts children
    · rw [if_neg entered]
      exact List.nodup_nil

/-- No two files of a tree have one key. -/
theorem nodup_objectsOf (front : String) :
    ∀ (entries : List (String × FileTree)) (start : String), Ascending entries →
      (∀ e ∈ entries, IsPart e.1) → (∀ e ∈ entries, e.2.Sound) →
      ((objectsOf front start entries).map Prod.fst).Nodup
  | [], _, _, _, _ => List.nodup_nil
  | (name, node) :: rest, start, ascending, parts, sound => by
    obtain ⟨least, tail⟩ := List.pairwise_cons.mp ascending
    obtain ⟨part, parts⟩ := List.forall_mem_cons.mp parts
    obtain ⟨here, sound⟩ := List.forall_mem_cons.mp sound
    rw [objectsOf, List.map_append, List.nodup_append']
    refine ⟨nodup_objectsAt front node (start ++ name) here,
      nodup_objectsOf front rest start tail parts sound, ?_⟩
    -- A key tells the name of its entry, and the names of later entries are above this one.
    intro key first later
    obtain ⟨o, mem, rfl⟩ := List.mem_map.mp first
    obtain ⟨o', mem', same⟩ := List.mem_map.mp later
    rw [mem_objectsAt_iff front node _ here] at mem
    rw [mem_objectsOf_iff front rest start sound] at mem'
    obtain ⟨-, names, there, key⟩ := mem
    obtain ⟨-, e, at_rest, names', there', key'⟩ := mem'
    rw [String.intercalate_cons_append] at key
    have same := name_unique part (parts e at_rest) here (sound e at_rest) there there'
      (by rw [← key, ← key', same])
    exact absurd (least e at_rest) (by rw [same]; exact String.lt_irrefl e.1)

end

end FileTree

end SurveyDispatch
