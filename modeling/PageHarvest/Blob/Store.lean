import PageHarvest.Blob.Path
import PageHarvest.Log.Entry

/-!
# A store of objects

Objects are bytes under a path.  `put` replaces what was there; `get` gives what was put last.
-/

namespace PageHarvest.Blob

/-- Why an object was not stored or not found. -/
inductive Error
  | emptyKey
  | notFound (key : String)
  deriving DecidableEq, Repr

/-- The wording. -/
def Error.message : Error → String
  | emptyKey => "object key must not be empty"
  | notFound key => "failed to read " ++ key

/-- Objects and their paths, the one put last first. -/
structure Store where
  objects : List (Path × List UInt8)
  deriving DecidableEq, Repr

namespace Store

/-- No objects. -/
def empty : Store := ⟨[]⟩

/-- The store with the object under the key. -/
def put (store : Store) (key : String) (body : List UInt8) : Except Error Store :=
  match Path.ofKey? key.toList with
  | none => .error .emptyKey
  | some p => .ok ⟨(p, body) :: store.objects⟩

/-- The object under the key. -/
def get (store : Store) (key : String) : Except Error (List UInt8) :=
  match Path.ofKey? key.toList with
  | none => .error .emptyKey
  | some p =>
    match store.objects.lookup p with
    | none => .error (.notFound key)
    | some body => .ok body

/-- What is said about an object that has been stored. -/
def storedEvent (key : String) (size : Nat) (contentType : String) : Log.Event where
  level := .debug
  target := "scraper_core::kernel::blob_store"
  message := "stored artifact"
  fields := [("key", .shown key), ("bytes", .number size), ("content_type", .shown contentType)]

end Store

end PageHarvest.Blob
