import Mathlib.Data.List.Sort
import SurveyDispatch.Proofs.Store.Objects
import SurveyDispatch.Proofs.Store.Scanning

/-!
# One store for another

A store in a directory and a store in memory give the same answers as long as the keys that are put
into them are clean and free of conflicts (`stores_interchangeable`).

The directory then holds what is in memory: each object is a file at the place of its key, there are
no other files, and no directory but the root is without a file below it (`Holds`).  Keys without
conflicts find no file above their places and no directory at them, so every put succeeds and the
directory holds the objects again (`Holds.put`).  The walk through the directory and the scan of the
memory find the same objects, both in the order of their keys (`Holds.listObjects_eq`).
-/

namespace SurveyDispatch

open Document (segments)
open FileTree (directory file)

/-! ## Putting many objects -/

/-- Puts objects one after the other, up to the first one that fails. -/
def putAll {σ : Type} [ObjectStore σ] (store : σ) :
    List (String × Bytes) → Except StoreFault Unit × σ
  | [] => (.ok (), store)
  | (key, bytes) :: rest =>
    match ObjectStore.put store key bytes with
    | (.ok (), store) => putAll store rest
    | failed => failed

/-- The bytes that are put last under a key. -/
def lastPut (puts : List (String × Bytes)) (key : String) : Option Bytes :=
  puts.reverse.lookup key

theorem Dictionary.get?_insertAll {α : Type} (key : String) :
    ∀ (entries : List (String × α)) (d : Dictionary α),
      (d.insertAll entries).get? key = (entries.reverse.lookup key).or (d.get? key)
  | [], _ => rfl
  | (k, v) :: rest, d => by
    have step : d.insertAll ((k, v) :: rest) = (d.insert k v).insertAll rest := rfl
    rw [step, get?_insertAll key rest, get?_insert, List.reverse_cons, List.lookup_append,
      Option.or_assoc, List.lookup_cons, List.lookup_nil]
    by_cases same : key = k
    · simp [same]
    · have other : (key == k) = false := beq_eq_false_iff_ne.mpr same
      simp [same, other]

/-- A key holds what was put there last. -/
theorem MemoryStore.get?_ofList (puts : List (String × Bytes)) (key : String) :
    (ofList puts).objects.get? key = lastPut puts key := by
  rw [ofList, Dictionary.ofList, Dictionary.get?_insertAll, Dictionary.get?_empty, Option.or_none,
    lastPut]

theorem mem_of_lastPut {puts : List (String × Bytes)} {key : String} {bytes : Bytes}
    (h : lastPut puts key = some bytes) : key ∈ puts.map Prod.fst := by
  obtain ⟨later, earlier, split, -⟩ := List.lookup_eq_some_iff.mp h
  refine List.mem_map.mpr ⟨(key, bytes), List.mem_reverse.mp ?_, rfl⟩
  rw [split]
  exact List.mem_append_right later List.mem_cons_self

/-- No object has a key that goes on behind the given one, or the other way round. -/
def MemoryStore.NoConflict (s : MemoryStore) (key : String) : Prop :=
  ∀ other content, s.objects.get? other = some content →
    ¬ Text.startsWith key (other ++ "/") = true ∧ ¬ Text.startsWith other (key ++ "/") = true

theorem ConflictFree.noConflict {keys : List String} {memory : MemoryStore} {key : String}
    (apart : ConflictFree keys) (mem : key ∈ keys)
    (stored : ∀ other content, memory.objects.get? other = some content → other ∈ keys) :
    memory.NoConflict key := by
  intro other content found
  have mem' := stored other content found
  exact ⟨apart other mem' key mem, apart key mem other mem'⟩

/-! ## Directories that hold what is in memory -/

/-- The files of a tree are the objects of a store in memory, and every directory below the root has
a file below it. -/
structure Holds (t : FileTree) (memory : MemoryStore) : Prop where
  sound : t.Sound
  files : ∀ key content,
    memory.objects.get? key = some content ↔ t.at? (segments key) = some (file content)
  occupied : ∀ names entries, names ≠ [] → t.at? names = some (directory entries) →
    ∃ rest content, t.at? (names ++ rest) = some (file content)

namespace Holds

variable {t : FileTree} {memory : MemoryStore} {key front : String}
  {entries : List (String × FileTree)}

theorem empty : Holds .empty (.ofList []) where
  sound := FileTree.sound_empty
  files key content := by
    cases split : segments key with
    | nil => exact absurd split (segments_ne_nil key)
    | cons name rest => exact ⟨nofun, nofun⟩
  occupied names entries nonempty there := by
    cases names with
    | nil => exact absurd rfl nonempty
    | cons name rest => cases there

/-- A file is an object under the key that its place spells. -/
theorem of_file (h : Holds t memory) {names : List String} {content : Bytes}
    (nonempty : names ≠ []) (there : t.at? names = some (file content)) :
    segments ("/".intercalate names) = names ∧
      memory.objects.get? ("/".intercalate names) = some content := by
  have split := segments_intercalate nonempty (h.sound.of_at? there).2
  exact ⟨split, (h.files _ content).mpr (by rw [split, there])⟩

/-- No file stands above the place of a key that goes on behind no other key. -/
theorem passable (h : Holds (directory entries) memory) (apart : memory.NoConflict key) :
    (directory entries).Passable (segments key) := by
  intro front rest content split behind there
  cases front with
  | nil => cases there
  | cons name names =>
    obtain ⟨parts, found⟩ := h.of_file (List.cons_ne_nil name names) there
    exact (apart _ content found).1 (startsWith_slash_iff.mpr ⟨rest, behind, by rw [parts, split]⟩)

/-- No directory is at the place of a key behind which no other key goes on. -/
theorem free (h : Holds t memory) (apart : memory.NoConflict key)
    (entries : List (String × FileTree)) : t.at? (segments key) ≠ some (directory entries) := by
  intro there
  obtain ⟨rest, content, below⟩ := h.occupied _ entries (segments_ne_nil key) there
  have behind : rest ≠ [] := by
    rintro rfl
    rw [List.append_nil, there] at below
    cases below
  obtain ⟨parts, found⟩ := h.of_file (List.append_ne_nil_of_left_ne_nil (segments_ne_nil key) rest)
    below
  exact (apart _ content found).2 (startsWith_slash_iff.mpr ⟨rest, behind, parts⟩)

/-- With a file at the place of its key a tree holds one more object. -/
theorem put (h : Holds t memory) (pass : t.Passable (segments key))
    (free : ∀ entries, t.at? (segments key) ≠ some (directory entries)) (bytes : Bytes) :
    Holds (t.insertAt (segments key) (file bytes)) (memory.set key bytes) := by
  have below := FileTree.at?_ne_file_of_not_directory free
  refine ⟨h.sound.insertAt (.file bytes) fun name mem => isPart_of_mem_segments mem, ?_, ?_⟩
  · intro other content
    rw [MemoryStore.get?_set, FileTree.at?_insertAt_file pass below]
    by_cases same : other = key
    · subst same
      simp [eq_comm]
    · rw [if_neg same, if_neg fun parts => same (segments_inj parts)]
      exact h.files other content
  · -- Directories above the new file have it below them, and the others keep theirs.
    intro names entries nonempty there
    rcases FileTree.at?_insertAt_file_directory there with ⟨rest, -, split⟩ | ⟨found, there⟩
    · exact ⟨rest, bytes, by rw [split, FileTree.at?_insertAt_self pass]⟩
    · obtain ⟨rest, content, below'⟩ := h.occupied names found nonempty there
      by_cases same : names ++ rest = segments key
      · exact ⟨rest, bytes, by rw [same, FileTree.at?_insertAt_self pass]⟩
      · refine ⟨rest, content, (FileTree.at?_insertAt_file pass below).mpr ?_⟩
        rwa [if_neg same]

/-! ## Listing -/

/-- The walk finds the objects whose keys start with a text. -/
theorem mem_objectsOf_iff (h : Holds (directory entries) memory) {bytes : Bytes} :
    (key, bytes) ∈ FileTree.objectsOf front "" entries ↔
      Text.startsWith key front = true ∧ memory.objects.get? key = some bytes := by
  have children : ∀ e ∈ entries, e.2.Sound := by
    cases h.sound with
    | directory _ _ children => exact children
  rw [FileTree.mem_objectsOf_iff front entries "" children]
  refine and_congr_right fun _ => ?_
  constructor
  · rintro ⟨e, mem, names, there, spelled⟩
    have there : (directory entries).at? (e.1 :: names) = some (file bytes) :=
      h.sound.at?_cons_iff.mpr ⟨e.2, mem, there⟩
    dsimp only at spelled
    rw [String.empty_append] at spelled
    rw [spelled]
    exact (h.of_file (List.cons_ne_nil _ _) there).2
  · intro found
    have there := (h.files key bytes).mp found
    cases split : segments key with
    | nil => exact absurd split (segments_ne_nil key)
    | cons name rest =>
      rw [split] at there
      obtain ⟨child, mem, there⟩ := h.sound.at?_cons_iff.mp there
      refine ⟨(name, child), mem, rest, there, ?_⟩
      rw [String.empty_append, ← split, intercalate_segments]

/-- Sorting by distinct keys puts them into strictly ascending order. -/
theorem ascending_mergeSort {found : List ObjectMeta} (nodup : (found.map (·.key)).Nodup) :
    (found.mergeSort fun a b => decide (a.key ≤ b.key)).Pairwise fun o o' => o.key < o'.key := by
  have sorted : (found.mergeSort fun a b => decide (a.key ≤ b.key)).Pairwise
      fun o o' => decide (o.key ≤ o'.key) = true := by
    refine List.pairwise_mergeSort ?_ ?_ found
    · intro a b c ab bc
      rw [decide_eq_true_eq] at *
      exact String.le_trans ab bc
    · intro a b
      rw [Bool.or_eq_true, decide_eq_true_eq, decide_eq_true_eq]
      exact String.le_total a.key b.key
  have differ : (found.mergeSort fun a b => decide (a.key ≤ b.key)).Pairwise
      fun o o' => o.key ≠ o'.key :=
    List.pairwise_map.mp (((List.mergeSort_perm found _).map ObjectMeta.key).nodup_iff.mpr nodup)
  refine (sorted.and differ).imp ?_
  rintro o o' ⟨le, ne⟩
  exact Std.lt_of_le_of_ne (of_decide_eq_true le) ne

/-- The walk and the scan list the same. -/
theorem listObjects_eq (h : Holds (directory entries) memory) {s : FileSystem} {root : String}
    (found : s.find root = .ok (directory entries)) :
    s.listObjects root front = .ok (memory.list front) := by
  have antisymm : Std.Antisymm fun o o' : ObjectMeta => o.key < o'.key :=
    ⟨fun o o' lt lt' => absurd (String.lt_trans lt lt') (String.lt_irrefl o.key)⟩
  have irrefl : Std.Irrefl fun o o' : ObjectMeta => o.key < o'.key :=
    ⟨fun o => String.lt_irrefl o.key⟩
  rw [FileSystem.listObjects, found]
  dsimp only
  congr 1
  refine List.Pairwise.eq_of_mem_iff (r := fun o o' => o.key < o'.key) (ascending_mergeSort ?_)
    (memory.ascending_list front) ?_
  · rw [List.map_map]
    cases h.sound with
    | directory ascending parts children =>
      exact FileTree.nodup_objectsOf front entries "" ascending parts children
  · intro o
    rw [List.mem_mergeSort, MemoryStore.mem_list_iff, List.mem_map]
    constructor
    · rintro ⟨⟨key, bytes⟩, mem, rfl⟩
      obtain ⟨starts, found⟩ := h.mem_objectsOf_iff.mp mem
      exact ⟨starts, bytes, found, rfl⟩
    · rintro ⟨starts, bytes, found, size⟩
      refine ⟨(o.key, bytes), h.mem_objectsOf_iff.mpr ⟨starts, found⟩, ?_⟩
      rw [← size]

end Holds

/-! ## The two stores side by side -/

/-- The root of a store in a directory leads to a directory that holds what is in memory. -/
structure Mirrors (s : FileSystem) (root : String) (memory : MemoryStore) : Prop where
  fine : s.pathFault? root = none
  leads : ∃ place entries, s.LeadsTo root place (directory entries) ∧
    Holds (directory entries) memory

namespace Mirrors

variable {s : FileSystem} {root key : String} {memory : MemoryStore} {keys : List String}

/-- A put succeeds, and then the directory holds what is in memory again. -/
theorem put (h : Mirrors s root memory) (clean : CleanKey key) (accepts : s.Accepts root key)
    (apart : memory.NoConflict key) (bytes : Bytes) :
    ∃ s', s.putObject root key bytes = (.ok (), s') ∧ s'.limits = s.limits ∧
      Mirrors s' root (memory.set key bytes) := by
  obtain ⟨fine, place, entries, lead, holds⟩ := h
  have holds' := holds.put (holds.passable apart) (holds.free apart) bytes
  have lead' := lead.insertAt (file bytes) (holds.free apart)
  refine ⟨_, lead.putObject_eq clean accepts (holds.passable apart) (holds.free apart) bytes, rfl,
    fine, place, ?_⟩
  cases split : segments key with
  | nil => exact absurd split (segments_ne_nil key)
  | cons name rest =>
    rw [split] at holds' lead'
    exact ⟨_, lead', holds'⟩

/-- Both stores have an object with the same bytes under a key, or none. -/
theorem get (h : Mirrors s root memory) (clean : CleanKey key) (accepts : s.Accepts root key)
    (apart : memory.NoConflict key) :
    s.getObject root key = memory.get key ∧
      s.containsObject root key = .ok (memory.objects.contains key) := by
  obtain ⟨-, place, entries, lead, holds⟩ := h
  rw [MemoryStore.get, Dictionary.contains]
  cases found : memory.objects.get? key with
  | some bytes => exact lead.getObject_of_file clean accepts ((holds.files key bytes).mp found)
  | none =>
    refine lead.getObject_of_missing clean accepts (holds.passable apart) ?_
    cases there : (directory entries).at? (segments key) with
    | none => rfl
    | some node =>
      cases node with
      | directory below => exact absurd there (holds.free apart below)
      | file bytes =>
        rw [(holds.files key bytes).mpr there] at found
        cases found

theorem list (h : Mirrors s root memory) (front : String) :
    s.listObjects root front = .ok (memory.list front) := by
  obtain ⟨fine, place, entries, lead, holds⟩ := h
  exact holds.listObjects_eq (FileSystem.find_eq_directory_iff.mpr ⟨fine, place, lead⟩)

end Mirrors

theorem put_directoryStore {s s' : FileSystem} {root key : String} {bytes : Bytes}
    (h : s.putObject root key bytes = (.ok (), s')) :
    ObjectStore.put (DirectoryStore.mk s root) key bytes = (.ok (), ⟨s', root⟩) := by
  have step : ObjectStore.put (DirectoryStore.mk s root) key bytes =
    ((s.putObject root key bytes).1, ⟨(s.putObject root key bytes).2, root⟩) := rfl
  rw [step, h]

/-- A run of puts succeeds on both, and then the directory holds what is in memory. -/
theorem Mirrors.putAll {root : String} {keys : List String} (apart : ConflictFree keys) :
    ∀ {puts : List (String × Bytes)} {s : FileSystem} {memory : MemoryStore},
      Mirrors s root memory →
      (∀ put ∈ puts, put.1 ∈ keys ∧ CleanKey put.1 ∧ s.Accepts root put.1) →
      (∀ other content, memory.objects.get? other = some content → other ∈ keys) →
      ∃ s', putAll (DirectoryStore.mk s root) puts = (.ok (), ⟨s', root⟩) ∧
        putAll memory puts = (.ok (), ⟨memory.objects.insertAll puts⟩) ∧
        s'.limits = s.limits ∧ Mirrors s' root ⟨memory.objects.insertAll puts⟩
  | [], s, memory, h, _, _ => ⟨s, rfl, rfl, rfl, h⟩
  | (key, bytes) :: rest, s, memory, h, puts, stored => by
    obtain ⟨⟨mem, clean, accepts⟩, puts⟩ := List.forall_mem_cons.mp puts
    obtain ⟨s', put, limits, h'⟩ := h.put clean accepts (apart.noConflict mem stored) bytes
    -- The other puts find the same limits, and only the key of this put is new.
    have puts' : ∀ put ∈ rest, put.1 ∈ keys ∧ CleanKey put.1 ∧ s'.Accepts root put.1 := by
      intro put mem
      obtain ⟨known, clean, accepts⟩ := puts put mem
      exact ⟨known, clean, accepts.of_limits limits⟩
    have stored' : ∀ other content, (memory.set key bytes).objects.get? other = some content →
        other ∈ keys := by
      intro other content found
      rw [MemoryStore.get?_set] at found
      by_cases same : other = key
      · rwa [same]
      · rw [if_neg same] at found
        exact stored other content found
    obtain ⟨s'', run, run', limits', h''⟩ := Mirrors.putAll apart h' puts' stored'
    have set : ObjectStore.put memory key bytes = (.ok (), memory.set key bytes) :=
      MemoryStore.put_eq_set clean.ne_empty
    refine ⟨s'', ?_, ?_, limits'.trans limits, h''⟩
    · rw [SurveyDispatch.putAll, put_directoryStore put]
      exact run
    · rw [SurveyDispatch.putAll, set]
      exact run'

/-! ## The stores are interchangeable -/

/-- The answer to a get after some puts. -/
def lastAnswer (puts : List (String × Bytes)) (key : String) : Except StoreFault Bytes :=
  match lastPut puts key with
  | some bytes => .ok bytes
  | none => .error (.notFound key)

/-- From nothing, a store in memory and a store in a directory take the same puts and then give the
same answers, which are those of the last puts. -/
theorem stores_interchangeable {files : FileSystem} {root : String} {puts : List (String × Bytes)}
    (empty : files.find root = .ok .empty) (clean : ∀ put ∈ puts, CleanKey put.1)
    (apart : ConflictFree (puts.map Prod.fst)) (accepts : ∀ put ∈ puts, files.Accepts root put.1) :
    ∃ memory stored, putAll (MemoryStore.ofList []) puts = (.ok (), memory) ∧
      putAll (DirectoryStore.mk files root) puts = (.ok (), stored) ∧
      (∀ front, ∃ listed,
        ObjectStore.list memory front = .ok listed ∧ ObjectStore.list stored front = .ok listed ∧
        listed.Pairwise (fun o o' => Utf8.encode o.key < Utf8.encode o'.key) ∧
        ∀ o, o ∈ listed ↔ Text.startsWith o.key front = true ∧
          ∃ bytes, lastPut puts o.key = some bytes ∧ o.size = bytes.length) ∧
      ∀ key, CleanKey key → ConflictFree (key :: puts.map Prod.fst) → files.Accepts root key →
        ObjectStore.get memory key = lastAnswer puts key ∧
        ObjectStore.get stored key = lastAnswer puts key ∧
        ObjectStore.contains memory key = .ok (lastPut puts key).isSome ∧
        ObjectStore.contains stored key = .ok (lastPut puts key).isSome := by
  have start : Mirrors files root (.ofList []) := by
    obtain ⟨fine, place, lead⟩ := FileSystem.find_eq_directory_iff.mp empty
    exact ⟨fine, place, [], lead, .empty⟩
  have known : ∀ put ∈ puts, put.1 ∈ puts.map Prod.fst ∧ CleanKey put.1 ∧
      files.Accepts root put.1 :=
    fun put mem => ⟨List.mem_map_of_mem mem, clean put mem, accepts put mem⟩
  obtain ⟨s, run, run', limits, mirrors⟩ := Mirrors.putAll apart start known nofun
  have mirrors : Mirrors s root (.ofList puts) := mirrors
  have stored : ∀ other content, (MemoryStore.ofList puts).objects.get? other = some content →
      other ∈ puts.map Prod.fst := by
    intro other content found
    rw [MemoryStore.get?_ofList] at found
    exact mem_of_lastPut found
  refine ⟨.ofList puts, ⟨s, root⟩, run', run, ?_, ?_⟩
  · intro front
    refine ⟨_, rfl, mirrors.list front, ?_, ?_⟩
    · exact ((MemoryStore.ofList puts).ascending_list front).imp Utf8.encode_lt_encode_iff.mpr
    · intro o
      rw [MemoryStore.mem_list_iff]
      simp only [MemoryStore.get?_ofList]
  · intro key clean apart accepts
    have answer : (MemoryStore.ofList puts).get key = lastAnswer puts key := by
      rw [MemoryStore.get, MemoryStore.get?_ofList]
      rfl
    have held : (MemoryStore.ofList puts).objects.contains key = (lastPut puts key).isSome := by
      rw [Dictionary.contains, MemoryStore.get?_ofList]
    have conflict : (MemoryStore.ofList puts).NoConflict key :=
      apart.noConflict List.mem_cons_self fun other content found =>
        List.mem_cons_of_mem key (stored other content found)
    obtain ⟨get, contains⟩ := mirrors.get clean (accepts.of_limits limits) conflict
    rw [held] at contains
    exact ⟨answer, get.trans answer, congrArg Except.ok held, contains⟩

/-- A file system with an empty directory in the working directory. -/
def FileSystem.fresh : FileSystem where
  root := directory [("data", directory [("notes", file [7]), ("store", .empty)])]
  here := ["data"]

/-- Objects below a directory and objects whose keys come before it, one of them put again. -/
def nearPuts : List (String × Bytes) :=
  [("a/b", [1]), ("a-b", [2, 3]), ("a/c/d", []), ("a.b", [4]), ("a/b", [5, 6])]

theorem stores_interchangeable_near :
    ∃ stored, putAll (DirectoryStore.mk .fresh "./store/") nearPuts = (.ok (), stored) ∧
      ObjectStore.list stored "a" = .ok [⟨"a-b", 2⟩, ⟨"a.b", 1⟩, ⟨"a/b", 2⟩, ⟨"a/c/d", 0⟩] ∧
      ObjectStore.list stored "a/c/" = .ok [⟨"a/c/d", 0⟩] ∧
      ObjectStore.get stored "a/b" = .ok [5, 6] ∧
      ObjectStore.contains stored "a/d" = .ok false := by
  have empty : FileSystem.fresh.find "./store/" = .ok .empty := rfl
  have clean : ∀ put ∈ nearPuts, CleanKey put.1 := by decide +kernel
  have apart : ConflictFree (nearPuts.map Prod.fst) := by decide +kernel
  have accepts : ∀ put ∈ nearPuts, FileSystem.fresh.Accepts "./store/" put.1 := by decide +kernel
  obtain ⟨memory, stored, run, run', lists, answers⟩ :=
    stores_interchangeable empty clean apart accepts
  have ends : memory = .ofList nearPuts := by
    have known : putAll (MemoryStore.ofList []) nearPuts = (.ok (), .ofList nearPuts) := rfl
    rw [known] at run
    cases run
    rfl
  subst ends
  have listed : ∀ {front listing}, (MemoryStore.ofList nearPuts).list front = listing →
      ObjectStore.list stored front = .ok listing := by
    intro front listing found
    obtain ⟨_, same, same', -⟩ := lists front
    rw [same', ← same, ← found]
    rfl
  refine ⟨stored, run', listed (by decide +kernel), listed (by decide +kernel), ?_, ?_⟩
  · exact (answers "a/b" (by decide +kernel) (by decide +kernel) (by decide +kernel)).2.1
  · exact (answers "a/d" (by decide +kernel) (by decide +kernel) (by decide +kernel)).2.2.2

end SurveyDispatch
