import SurveyDispatch.Text.Utf8

/-!
# Object stores

A store keeps bytes under keys.  Keys are names with slashes, and objects are listed by how their
keys start.  A source serves the attachments of submissions by their download URLs.

The operations are functions on the state of a store.  One that may change the state gives the new
state also where it fails.
-/

namespace SurveyDispatch

/-- Why a file operation fails. -/
inductive FileFault where
  /-- There is no such file or directory. -/
  | notFound
  /-- There is something of that name already. -/
  | alreadyExists
  /-- A file stands where a directory is needed. -/
  | notDirectory
  /-- A directory stands where a file is needed. -/
  | isDirectory
  /-- A name or a path is too long. -/
  | nameTooLong
  /-- A name holds the null character. -/
  | nullCharacter
  deriving DecidableEq, Repr

/-- The wording of a fault. -/
def FileFault.message : FileFault → String
  | notFound => "No such file or directory (os error 2)"
  | alreadyExists => "File exists (os error 17)"
  | notDirectory => "Not a directory (os error 20)"
  | isDirectory => "Is a directory (os error 21)"
  | nameTooLong => "File name too long (os error 36)"
  | nullCharacter => "file name contained an unexpected NUL byte"

/-- Why a store or a source fails. -/
inductive StoreFault where
  /-- No object has the key. -/
  | notFound (key : String)
  /-- The key cannot name an object. -/
  | invalidKey (key : String)
  /-- A file operation failed. -/
  | file (key : String) (fault : FileFault)
  deriving DecidableEq, Repr

/-- The wording of a fault. -/
def StoreFault.message : StoreFault → String
  | notFound key => s!"object not found: {key}"
  | invalidKey key => s!"invalid object key: {key}"
  | file key fault => s!"i/o error on {key}: {fault.message}"

/-- A listed object. -/
structure ObjectMeta where
  /-- Its key. -/
  key : String
  /-- The number of its bytes. -/
  size : Nat
  deriving DecidableEq, Repr

/-- Objects without bytes stand for folders and are no submissions. -/
def ObjectMeta.isPlaceholder (m : ObjectMeta) : Bool := m.size == 0

/-- The states of object stores. -/
class ObjectStore (σ : Type) where
  /-- The objects whose keys start with a text, in the order of their keys. -/
  list : σ → String → Except StoreFault (List ObjectMeta)
  /-- The bytes of an object. -/
  get : σ → String → Except StoreFault Bytes
  /-- Whether there is an object. -/
  contains : σ → String → Except StoreFault Bool
  /-- Creates an object or replaces its bytes. -/
  put : σ → String → Bytes → Except StoreFault Unit × σ

/-- The states of attachment sources. -/
class AttachmentSource (σ : Type) where
  /-- The bytes that are served at a URL. -/
  fetch : σ → String → Except StoreFault Bytes × σ

/-! ## A store and a source side by side -/

instance {σ τ : Type} [ObjectStore σ] : ObjectStore (σ × τ) where
  list s := ObjectStore.list s.1
  get s := ObjectStore.get s.1
  contains s := ObjectStore.contains s.1
  put s key bytes :=
    let (result, store) := ObjectStore.put s.1 key bytes
    (result, store, s.2)

instance {σ τ : Type} [AttachmentSource τ] : AttachmentSource (σ × τ) where
  fetch s url :=
    let (result, source) := AttachmentSource.fetch s.2 url
    (result, s.1, source)

/-! ## One of two stores or sources -/

instance {σ τ : Type} [ObjectStore σ] [ObjectStore τ] : ObjectStore (σ ⊕ τ) where
  list
    | .inl s => ObjectStore.list s
    | .inr t => ObjectStore.list t
  get
    | .inl s => ObjectStore.get s
    | .inr t => ObjectStore.get t
  contains
    | .inl s => ObjectStore.contains s
    | .inr t => ObjectStore.contains t
  put
    | .inl s, key, bytes =>
      let (result, s) := ObjectStore.put s key bytes
      (result, .inl s)
    | .inr t, key, bytes =>
      let (result, t) := ObjectStore.put t key bytes
      (result, .inr t)

instance {σ τ : Type} [AttachmentSource σ] [AttachmentSource τ] : AttachmentSource (σ ⊕ τ) where
  fetch
    | .inl s, url =>
      let (result, s) := AttachmentSource.fetch s url
      (result, .inl s)
    | .inr t, url =>
      let (result, t) := AttachmentSource.fetch t url
      (result, .inr t)

end SurveyDispatch
