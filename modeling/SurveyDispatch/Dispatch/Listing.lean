import SurveyDispatch.RangePattern
import SurveyDispatch.Store.Basic
import SurveyDispatch.Dictionary
import SurveyDispatch.Rule.RuleSet
import SurveyDispatch.Document.Reader

/-!
# Listing and querying submissions

Submissions are stored under an entry prefix.  A suffix with ranges narrows them down: a key is
listed if it starts with the prefix followed by one of the texts that the suffix stands for.  Each
key is listed once, in the order of keys, and objects without bytes are left out.

A query gives the listed keys whose record passes some rule set.
-/

namespace SurveyDispatch

variable {σ : Type} [ObjectStore σ]

/-- Adds the keys of listed objects that are no placeholders to a set of keys. -/
def addKeys (keys : Dictionary Unit) (objects : List ObjectMeta) : Dictionary Unit :=
  objects.foldl (fun keys o => if o.isPlaceholder then keys else keys.insert o.key ()) keys

/-- Adds the keys under each of the texts that an entry prefix and a suffix stand for. -/
def collectKeys (store : σ) (entryPrefix : String) :
    List String → Dictionary Unit → Except StoreFault (Dictionary Unit)
  | [], keys => .ok keys
  | expansion :: rest, keys =>
    match ObjectStore.list store (entryPrefix ++ expansion) with
    | .error fault => .error fault
    | .ok objects => collectKeys store entryPrefix rest (addKeys keys objects)

/-- The keys of the submissions under an entry prefix and a suffix. -/
def listSubmissions (store : σ) (entryPrefix suffix : String) :
    Except StoreFault (List String) := do
  return (← collectKeys store entryPrefix (expandRanges suffix) .empty).entries.map (·.1)

/-- The keys whose record passes some rule set.  Bytes that hold no document are left out. -/
def matchingKeys (store : σ) (query : List RuleSet) : List String → Except StoreFault (List String)
  | [] => .ok []
  | key :: rest =>
    match ObjectStore.get store key with
    | .error fault => .error fault
    | .ok bytes =>
      let found := match Document.read? bytes with
        | some record => (RuleSet.firstMatch record query).matched
        | none => false
      if found then (matchingKeys store query rest).map (key :: ·)
      else matchingKeys store query rest

/-- The listed keys whose record passes some rule set. -/
def queryStore (store : σ) (entryPrefix suffix : String) (query : List RuleSet) :
    Except StoreFault (List String) := do
  matchingKeys store query (← listSubmissions store entryPrefix suffix)

end SurveyDispatch
