import SurveyDispatch.Store.Directory
import SurveyDispatch.Proofs.Text.Order

/-!
# Keys and their parts

A key is the text of its parts with slashes between them, and the parts hold no slashes.  So keys
and non-empty lists of such parts are the same thing (`intercalate_segments`,
`segments_intercalate`).

A key that goes on behind another one with a slash between them has more parts
(`startsWith_slash_iff`).  Keys of which no one goes on behind another one are free of conflicts.
-/

namespace SurveyDispatch

open Document (segments)

/-! ## Parts -/

theorem segments_ne_nil (path : String) : segments path ≠ [] := by
  intro none
  exact List.splitOn_ne_nil '/' path.toList (List.map_eq_nil_iff.mp none)

@[simp] theorem segments_empty : segments "" = [""] := rfl

theorem toList_slash : "/".toList = ['/'] := rfl

/-- A path is the text of its parts. -/
theorem intercalate_segments (path : String) : "/".intercalate (segments path) = path := by
  have back : String.toList ∘ String.ofList = id := by
    funext cs
    exact String.toList_ofList
  rw [← String.toList_inj, String.toList_intercalate, segments, List.map_map, back, List.map_id,
    toList_slash]
  exact List.intercalate_splitOn '/'

theorem segments_inj {path other : String} (h : segments path = segments other) :
    path = other := by
  rw [← intercalate_segments path, h, intercalate_segments]

/-- The parts around a slash. -/
theorem segments_slash (path rest : String) :
    segments (path ++ "/" ++ rest) = segments path ++ segments rest := by
  rw [segments, String.toList_append, String.toList_append, List.append_assoc, toList_slash,
    List.singleton_append, List.splitOn_append_cons_self, List.map_append]
  rfl

/-- Parts hold no slashes. -/
def IsPart (part : String) : Prop := '/' ∉ part.toList

theorem segments_of_isPart {part : String} (h : IsPart part) : segments part = [part] := by
  rw [segments, List.splitOn_eq_singleton h, List.map_singleton, String.ofList_toList]

theorem segments_intercalate : ∀ {parts : List String}, parts ≠ [] →
    (∀ part ∈ parts, IsPart part) → segments ("/".intercalate parts) = parts
  | [part], _, h => by
    rw [String.intercalate_singleton]
    exact segments_of_isPart (h part List.mem_cons_self)
  | part :: other :: rest, _, h => by
    rw [String.intercalate_cons_cons, segments_slash,
      segments_of_isPart (h part List.mem_cons_self),
      segments_intercalate (List.cons_ne_nil other rest) fun p mem =>
        h p (List.mem_cons_of_mem part mem)]
    rfl

theorem not_mem_of_mem_splitOn {c : Char} {cs part : List Char} (h : part ∈ cs.splitOn c) :
    c ∉ part := by
  induction cs generalizing part with
  | nil =>
    rw [List.splitOn_nil, List.mem_singleton] at h
    subst h
    exact List.not_mem_nil
  | cons x rest ih =>
    rw [List.splitOn_cons_eq_if_modifyHead] at h
    cases same : x == c with
    | true =>
      rw [same, if_pos rfl, List.mem_cons] at h
      rcases h with rfl | h
      · exact List.not_mem_nil
      · exact ih h
    | false =>
      cases split : rest.splitOn c with
      | nil => exact absurd split (List.splitOn_ne_nil c rest)
      | cons first others =>
        rw [split] at ih
        rw [same, split, if_neg Bool.false_ne_true, List.modifyHead_cons, List.mem_cons] at h
        rcases h with rfl | h
        · rw [List.mem_cons, not_or]
          exact ⟨fun eq => by simp [eq] at same, ih List.mem_cons_self⟩
        · exact ih (List.mem_cons_of_mem first h)

theorem isPart_of_mem_segments {path part : String} (h : part ∈ segments path) : IsPart part := by
  obtain ⟨cs, mem, rfl⟩ := List.mem_map.mp h
  rw [IsPart, String.toList_ofList]
  exact not_mem_of_mem_splitOn mem

/-! ## Keys in front of other keys -/

/-- A key goes on behind another one exactly if its parts do. -/
theorem startsWith_slash_iff {key other : String} :
    Text.startsWith other (key ++ "/") = true ↔
      ∃ rest, rest ≠ [] ∧ segments other = segments key ++ rest := by
  constructor
  · intro starts
    obtain ⟨rest, same⟩ := Text.startsWith_iff.mp starts
    have split : other = key ++ "/" ++ String.ofList rest := by
      rw [← String.toList_inj, ← same, String.toList_append (s := key ++ "/"),
        String.toList_ofList]
    exact ⟨segments (String.ofList rest), segments_ne_nil _, split ▸ segments_slash _ _⟩
  · rintro ⟨rest, behind, same⟩
    have split : other = key ++ "/" ++ "/".intercalate rest := by
      rw [← intercalate_segments other, same,
        String.intercalate_append_of_ne_nil (segments_ne_nil key) behind, intercalate_segments]
    rw [split]
    exact Text.startsWith_append _ _

/-- Parts that lead down. -/
def IsName (part : String) : Prop := part ≠ "" ∧ part ≠ "." ∧ part ≠ ".."

instance (part : String) : Decidable (IsName part) :=
  inferInstanceAs (Decidable (part ≠ "" ∧ part ≠ "." ∧ part ≠ ".."))

/-- Keys of which every part is a name. -/
structure CleanKey (key : String) : Prop where
  ne_empty : key ≠ ""
  names : ∀ part ∈ segments key, IsName part

instance (key : String) : Decidable (CleanKey key) :=
  decidable_of_iff (key ≠ "" ∧ ∀ part ∈ segments key, IsName part)
    ⟨fun h => ⟨h.1, h.2⟩, fun h => ⟨h.1, h.2⟩⟩

/-- No key goes on behind another one with a slash between them. -/
def ConflictFree (keys : List String) : Prop :=
  ∀ key ∈ keys, ∀ other ∈ keys, ¬ Text.startsWith other (key ++ "/") = true

instance (keys : List String) : Decidable (ConflictFree keys) :=
  inferInstanceAs (Decidable (∀ key ∈ keys, ∀ other ∈ keys, _))

theorem CleanKey.isBelowRoot {key : String} (h : CleanKey key) : isBelowRoot key = true := by
  have noUp : ".." ∉ segments key := fun mem => (h.names ".." mem).2.2 rfl
  have head : ∀ part, (segments key).head? = some part → part ≠ "" ∧ part ≠ "." := by
    intro part found
    have names := h.names part (List.mem_of_head? found)
    exact ⟨names.1, names.2.1⟩
  have empty : (segments key).head? ≠ some "" := fun found => (head "" found).1 rfl
  have dot : (segments key).head? ≠ some "." := fun found => (head "." found).2 rfl
  simp [SurveyDispatch.isBelowRoot, noUp, empty, dot]

end SurveyDispatch
