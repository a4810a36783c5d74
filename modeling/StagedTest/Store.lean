import StagedTest.ClientError
import StagedTest.Object

/-!
# Stores

A cluster that is nothing but its objects, each under its kind, namespace and name. An object is
created only where there is none, and read and deleted only where there is one.
-/
namespace StagedTest

/-- The place of an object in a store. -/
structure ObjectKey where
  /-- The kind of the object. -/
  kind : ObjectKind
  /-- The namespace of the object. -/
  ns : String
  /-- The name of the object. -/
  name : String
deriving DecidableEq, Inhabited, Repr

/-- The objects of a cluster. -/
structure Store where
  /-- The objects by their places; the first one at a place counts. -/
  entries : List (ObjectKey × Object) := []
deriving Inhabited

namespace Store

/-- The store without objects. -/
def empty : Store := {}

/-- The object at a place in a list of entries. -/
def find? (key : ObjectKey) : List (ObjectKey × Object) → Option Object
  | [] => none
  | (other, object) :: rest => if other = key then some object else find? key rest

/-- The object at a place. -/
def get? (store : Store) (key : ObjectKey) : Option Object := find? key store.entries

/-- Leaves out the objects at the places of which something is true. -/
def eraseIf (store : Store) (test : ObjectKey → Object → Bool) : Store :=
  ⟨store.entries.filter fun (key, object) => !test key object⟩

/-- Takes away the object at a place. -/
def erase (store : Store) (key : ObjectKey) : Store := store.eraseIf fun other _ => other == key

/-- Puts an object at a place, instead of what is there. -/
def put (store : Store) (key : ObjectKey) (object : Object) : Store :=
  ⟨(key, object) :: (store.erase key).entries⟩

/-- What the cluster says when it refuses a call. -/
def refusal (method what name reason : String) (code : UInt16) : ClientError :=
  .call method what name (.refused
    { status := "Failure", message := s!"{what} {name} {reason}", reason, code })

/-- There is no object of that name. -/
def notFound (method what name : String) : ClientError := refusal method what name "NotFound" 404

/-- There is already an object of that name. -/
def alreadyExists (method what name : String) : ClientError :=
  refusal method what name "AlreadyExists" 409

/-- The place of an object in a namespace. -/
def keyOf (ns : String) (object : Object) : ObjectKey := ⟨object.kind, ns, object.displayName⟩

/-- Creates an object where there is none. -/
def create (store : Store) (ns : String) (object : Object) : Except ClientError Store :=
  let key := keyOf ns object
  match store.get? key with
  | some _ => .error (alreadyExists "create" key.kind.name key.name)
  | none => .ok (store.put key object)

/-- Reads the object at a place. -/
def read (store : Store) (key : ObjectKey) : Except ClientError Object :=
  match store.get? key with
  | some object => .ok object
  | none => .error (notFound "get" key.kind.name key.name)

/-- Deletes the object at a place. -/
def delete (store : Store) (key : ObjectKey) : Except ClientError Store :=
  match store.get? key with
  | some _ => .ok (store.erase key)
  | none => .error (notFound "delete" key.kind.name key.name)

/-- Deletes the objects of a kind and a namespace that carry all of some labels. -/
def deleteAll (store : Store) (kind : ObjectKind) (ns : String) (labels : StringMap String) :
    Store :=
  store.eraseIf fun key object =>
    key.kind == kind && key.ns == ns && object.metadata.carries labels

/-- The places of the objects, in order. -/
def keys (store : Store) : List ObjectKey :=
  (store.entries.map (·.1)).mergeSort fun a b =>
    !List.lex [b.kind.name, b.ns, b.name] [a.kind.name, a.ns, a.name] fun x y => decide (x < y)

/-- Leaving out the entries at a place empties it, and keeps what is at every other one. -/
theorem find?_filter_ne (key other : ObjectKey) (entries : List (ObjectKey × Object)) :
    find? other (entries.filter fun (k, _) => !(k == key)) =
      if other = key then none else find? other entries := by
  induction entries with
  | nil => simp [find?]
  | cons head rest ih =>
    obtain ⟨k, object⟩ := head
    by_cases same : k = key
    · subst same
      by_cases found : other = k
      · simpa [found] using ih
      · simpa [find?, found, Ne.symm found] using ih
    · by_cases found : k = other
      · subst found
        simp [find?, same]
      · simpa [find?, same, found] using ih

/-- Taking an object away empties its place and no other one. -/
@[simp] theorem get?_erase (store : Store) (key other : ObjectKey) :
    (store.erase key).get? other = if other = key then none else store.get? other :=
  find?_filter_ne key other store.entries

/-- An object that is put at a place is there, and every other place is as before. -/
@[simp] theorem get?_put (store : Store) (key other : ObjectKey) (object : Object) :
    (store.put key object).get? other = if other = key then some object else store.get? other := by
  have rest := get?_erase store key other
  by_cases same : other = key
  · simp [put, get?, find?, same]
  · simp only [same, if_false] at rest ⊢
    simp only [put, get?, find?]
    rw [if_neg (Ne.symm same)]
    exact rest

end Store

end StagedTest
