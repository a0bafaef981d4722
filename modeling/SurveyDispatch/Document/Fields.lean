import SurveyDispatch.Document.Basic
import SurveyDispatch.Dictionary

/-!
# Documents with known fields

Settings and rules are documents with known fields.  Such a document is a record, where unknown
fields are ignored, or a list of the values in the order of the fields, where missing ones at the
end are absent.  A field may have a second name.  It is an error to give both.

The formats in which these documents come differ in two points, which are their *conventions*:
whether null stands for an absent optional value, and whether a list may be longer than there are
fields.
-/

namespace SurveyDispatch

/-- Where formats of documents with known fields differ. -/
structure Conventions where
  /-- Null stands for an absent optional value. -/
  nullIsAbsent : Bool
  /-- A list may be longer than there are fields. -/
  surplusAllowed : Bool

/-- The conventions of JSON documents. -/
def Conventions.json : Conventions := ⟨true, false⟩

/-- The conventions of TOML files. -/
def Conventions.toml : Conventions := ⟨false, true⟩

namespace Document

/-! ## Reading -/

/-- The value of a field that may go by any of the names.  Two values are an error. -/
def valueOf? (fields : List (String × Document)) (names : List String) :
    Option (Option Document) :=
  match names.filterMap fun n => fields.lookup n with
  | [] => some none
  | [v] => some (some v)
  | _ => none

/-- The values of known fields, each given by its names. -/
def fieldValues? (c : Conventions) (names : List (List String)) :
    Document → Option (List (Option Document))
  | record fields => names.mapM (valueOf? fields)
  | list items =>
    if items.length ≤ names.length || c.surplusAllowed then
      some ((List.range names.length).map fun i => items[i]?)
    else none
  | _ => none

/-- The truth value of a document. -/
def asBool? : Document → Option Bool
  | bool b => some b
  | _ => none

/-- The list of a document whose items are all of a kind. -/
def asList? {α : Type} (item : Document → Option α) : Document → Option (List α)
  | list items => items.mapM item
  | _ => none

/-- The dictionary of a record of texts. -/
def asDictionary? : Document → Option (Dictionary String)
  | record fields => do
    let entries ← fields.mapM fun (n, v) => do return (n, ← v.asText?)
    return .ofList entries
  | _ => none

/-- A value that must be there. -/
def required {α : Type} (read : Document → Option α) : Option Document → Option α
  | some d => read d
  | none => none

/-- A value that has a default. -/
def orElse {α : Type} (default : α) (read : Document → Option α) : Option Document → Option α
  | some d => read d
  | none => some default

/-- A value that may be absent. -/
def optional {α : Type} (c : Conventions) (read : Document → Option α) :
    Option Document → Option (Option α)
  | none => some none
  | some d => if c.nullIsAbsent && d.isNull then some none else some <$> read d

/-! ## Writing -/

/-- A list of texts. -/
def ofTexts (ss : List String) : Document := list (ss.map text)

/-- A dictionary of texts as a record. -/
def ofDictionary (d : Dictionary String) : Document :=
  record (d.entries.map fun e => (e.1, text e.2))

/-- An optional value, null if it is absent. -/
def ofOption {α : Type} (write : α → Document) : Option α → Document
  | some a => write a
  | none => null

end Document

end SurveyDispatch
