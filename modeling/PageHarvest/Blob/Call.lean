import PageHarvest.Blob.Store

/-!
# What is asked of a store

Whoever uses a store makes calls, one after the other.  `Store.after` is the store after some calls,
and `bodiesUnder` is what these calls put under the keys of one object.  Which keys those are is said
without paths: keys with the same `parts`.
-/

namespace PageHarvest.Blob

/-- The parts of a key between its slashes, without the empty ones. -/
def parts (key : String) : List (List Char) :=
  (key.toList.splitOn '/').filter (· ≠ [])

/-- What can be asked of a store. -/
inductive Call
  | put (key : String) (body : List UInt8)
  | get (key : String)
  deriving DecidableEq, Repr

namespace Call

/-- The store after the call.  A call that is refused leaves it as it is. -/
def on (store : Store) : Call → Store
  | put key body =>
    match store.put key body with
    | .ok changed => changed
    | .error _ => store
  | get _ => store

/-- The body, if the call puts one under a key with these parts. -/
def bodyUnder? (ps : List (List Char)) : Call → Option (List UInt8)
  | put key body => if parts key = ps then some body else none
  | get _ => none

end Call

/-- The bodies that the calls put under keys with these parts, in order. -/
def bodiesUnder (ps : List (List Char)) (calls : List Call) : List (List UInt8) :=
  calls.filterMap (Call.bodyUnder? ps)

/-- The store after the calls. -/
def Store.after (store : Store) (calls : List Call) : Store :=
  calls.foldl Call.on store

end PageHarvest.Blob
