import SurveyDispatch.Number.Decimal
import SurveyDispatch.Number.Real64

/-!
# Documents

Submissions, settings, rules and messages are documents: null, truth values, numbers, texts, lists
and records of named fields.  The fields of a record keep the order in which they were written.

A value is *falsy* if it is null, false, zero or empty.  No path leads through a falsy value, and a
falsy address key counts as absent.
-/

namespace SurveyDispatch

/-- A document. -/
inductive Document where
  /-- The null value. -/
  | null
  /-- A truth value. -/
  | bool (value : Bool)
  /-- A number. -/
  | number (value : Number)
  /-- A text. -/
  | text (value : String)
  /-- A list of items. -/
  | list (items : List Document)
  /-- Named fields in the order in which they were written. -/
  | record (fields : List (String × Document))

namespace Document

/-- A natural number below 2^64 as a document. -/
def ofNat (n : Nat) : Document := number (.ofNat n)

/-- A number in a document.  One that is not finite is null. -/
def ofReal : Real64 → Document
  | .finite x => number (.float x)
  | _ => null

/-- A text or null. -/
def ofText? : Option String → Document
  | some s => text s
  | none => null

/-- The value, with null for an absent one. -/
def orNull (d : Option Document) : Document := d.getD null

/-- Null, false, zero and everything empty. -/
def isFalsy : Document → Bool
  | null => true
  | bool b => !b
  | number n => n.isZero
  | text s => s.isEmpty
  | list items => items.isEmpty
  | record fields => fields.isEmpty

/-- Whether the value is null. -/
def isNull : Document → Bool
  | null => true
  | _ => false

/-- The text of a text value. -/
def asText? : Document → Option String
  | text s => some s
  | _ => none

/-- The value of a field of a record. -/
def field? (name : String) : Document → Option Document
  | record fields => fields.lookup name
  | _ => none

/-- The word for what kind of value this is. -/
def kind : Document → String
  | null => "null"
  | bool _ => "bool"
  | number _ => "number"
  | text _ => "string"
  | list _ => "array"
  | record _ => "object"

/-- Puts a field into a record.  A field of the same name keeps its place and takes the new
value. -/
def putField (name : String) (value : Document) :
    List (String × Document) → List (String × Document)
  | [] => [(name, value)]
  | (n, v) :: rest => if n = name then (n, value) :: rest else (n, v) :: putField name value rest

/-! ## Equality

Two values are equal if they are built alike, where the order of the fields of a record does not
count.  A whole number never equals a binary64 number, and the two binary64 zeros are equal. -/

/-- Equality of numbers inside a document. -/
def equalNumber : Number → Number → Bool
  | .integer i _, .integer j _ => i == j
  | .float x, .float y => x.units == y.units
  | _, _ => false

mutual

/-- Whether two documents are equal. -/
def equal : Document → Document → Bool
  | null, null => true
  | bool a, bool b => a == b
  | number m, number n => equalNumber m n
  | text s, text t => s == t
  | list xs, list ys => equalItems xs ys
  | record fs, record gs => fs.length == gs.length && equalFields fs gs
  | _, _ => false

/-- Whether two lists have equal items. -/
def equalItems : List Document → List Document → Bool
  | [], [] => true
  | x :: xs, y :: ys => equal x y && equalItems xs ys
  | _, _ => false

/-- Whether each of the fields equals the field of that name among others. -/
def equalFields : List (String × Document) → List (String × Document) → Bool
  | [], _ => true
  | (name, v) :: rest, others =>
    (match others.lookup name with
      | some w => equal v w
      | none => false) && equalFields rest others

end

/-! ## Order and equality of literals -/

/-- Equality of a value and a literal: two numbers by value, all else as documents. -/
def sameValue : Document → Document → Bool
  | number m, number n => m.order? n == some .eq
  | d, e => equal d e

/-- Order of two numbers, two texts or two truth values.  No other pair is ordered. -/
def order? : Document → Document → Option Ordering
  | number m, number n => m.order? n
  | text s, text t => some (compare s t)
  | bool a, bool b => some (compare a b)
  | _, _ => none

example : equal (record [("a", null), ("b", bool true)]) (record [("b", bool true), ("a", null)]) :=
  by decide
example : order? (text "a") (text "b") = some .lt := by decide
example : order? null null = none := by decide

end Document

end SurveyDispatch
