import SurveyDispatch.Document.Basic
import SurveyDispatch.Text.Digits

/-!
# Paths into documents

A path is a text of segments with slashes between them.  A segment names a field of a record or
counts an item of a list.

There are two ways to follow a path.  Rules *resolve* it: no path leads through a falsy value, and
an index is a run of digits.  The model of a submission *looks it up*: falsy values are no
obstacle, and an index may have a plus sign in front.
-/

namespace SurveyDispatch.Document

/-- The segments of a path.  There is always at least one, which may be empty. -/
def segments (path : String) : List String := (path.toList.splitOn '/').map String.ofList

/-- Indexes are below 2^64. -/
def indexOf? (digits : List Char) : Option Nat := do
  let n ← Digits.value? digits
  if n < 0x10000000000000000 then some n else none

/-- The index a segment denotes for a rule. -/
def plainIndex? (segment : String) : Option Nat := indexOf? segment.toList

/-- The index a segment denotes for the model of a submission. -/
def signedIndex? (segment : String) : Option Nat :=
  match segment.toList with
  | '+' :: digits => indexOf? digits
  | digits => indexOf? digits

/-- The value one segment below a value. -/
def child? (index? : String → Option Nat) (segment : String) : Document → Option Document
  | record fields => fields.lookup segment
  | list items => do items[← index? segment]?
  | _ => none

/-- Follows segments, but not out of a falsy value. -/
def resolveFrom (d : Document) : List String → Option Document
  | [] => some d
  | s :: rest =>
    if d.isFalsy then none
    else match d.child? plainIndex? s with
      | some e => e.resolveFrom rest
      | none => none

/-- The value that a rule finds at a path. -/
def resolve (d : Document) (path : String) : Option Document := d.resolveFrom (segments path)

/-- Follows segments. -/
def lookupFrom (d : Document) : List String → Option Document
  | [] => some d
  | s :: rest =>
    match d.child? signedIndex? s with
    | some e => e.lookupFrom rest
    | none => none

/-- The value that the model of a submission finds at a path. -/
def lookup (d : Document) (path : String) : Option Document := d.lookupFrom (segments path)

/-- Changes the value of the first field with a name. -/
def modifyField (name : String) (f : Document → Document) :
    List (String × Document) → List (String × Document)
  | [] => []
  | (n, v) :: rest => if n = name then (n, f v) :: rest else (n, v) :: modifyField name f rest

/-- Puts a value in the place of the one that is looked up at the segments.  Nothing changes if
there is none. -/
def replaceAt (value : Document) : List String → (Document → Document)
  | [] => fun _ => value
  | s :: rest => fun
    | record fields => record (modifyField s (replaceAt value rest) fields)
    | list items =>
      match signedIndex? s with
      | some i => list (items.modify i (replaceAt value rest))
      | none => list items
    | d => d

example : (record [("a", list [null, bool true])]).resolve "a/1" = some (bool true) := by rfl
example : (record [("a", list [null, bool true])]).resolve "a/+1" = none := by rfl
example : (record [("a", list [null, bool true])]).lookup "a/+1" = some (bool true) := by rfl
example : (record [("a", text "")]).resolve "a" = some (text "") := by rfl

end SurveyDispatch.Document
