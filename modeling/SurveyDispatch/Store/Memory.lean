import SurveyDispatch.Store.Basic
import SurveyDispatch.Dictionary
import SurveyDispatch.Text.Front

/-!
# Stores and sources in memory

A store in memory is a dictionary of objects.  A source in memory serves files from a dictionary
and counts how often it was asked.
-/

namespace SurveyDispatch

/-- A store in memory. -/
structure MemoryStore where
  /-- The bytes by key. -/
  objects : Dictionary Bytes

namespace MemoryStore

/-- A store of objects, of which the last one of a key counts. -/
def ofList (objects : List (String × Bytes)) : MemoryStore := ⟨.ofList objects⟩

/-- The number of objects. -/
def size (s : MemoryStore) : Nat := s.objects.entries.length

/-- The objects whose keys start with a text.  They are read off from the first key that is not
below the text up to the first one that does not start with it. -/
def list (s : MemoryStore) (front : String) : List ObjectMeta :=
  let above := s.objects.entries.dropWhile fun e => e.1 < front
  (above.takeWhile fun e => Text.startsWith e.1 front).map fun e => ⟨e.1, e.2.length⟩

/-- The bytes of an object. -/
def get (s : MemoryStore) (key : String) : Except StoreFault Bytes :=
  match s.objects.get? key with
  | some bytes => .ok bytes
  | none => .error (.notFound key)

/-- Creates an object or replaces its bytes.  The empty key names no object. -/
def put (s : MemoryStore) (key : String) (bytes : Bytes) : Except StoreFault Unit × MemoryStore :=
  if key.isEmpty then (.error (.invalidKey key), s)
  else (.ok (), ⟨s.objects.insert key bytes⟩)

end MemoryStore

instance : ObjectStore MemoryStore where
  list s front := .ok (s.list front)
  get := MemoryStore.get
  contains s key := .ok (s.objects.contains key)
  put := MemoryStore.put

/-- A source in memory. -/
structure MemorySource where
  /-- The bytes by URL. -/
  files : Dictionary Bytes
  /-- How often the source was asked. -/
  fetches : Nat

namespace MemorySource

/-- A source of files that was never asked. -/
def ofList (files : List (String × Bytes)) : MemorySource := ⟨.ofList files, 0⟩

/-- The bytes served at a URL. -/
def fetch (s : MemorySource) (url : String) : Except StoreFault Bytes × MemorySource :=
  (match s.files.get? url with
    | some bytes => .ok bytes
    | none => .error (.notFound url),
    { s with fetches := s.fetches + 1 })

end MemorySource

instance : AttachmentSource MemorySource where
  fetch := MemorySource.fetch

end SurveyDispatch
