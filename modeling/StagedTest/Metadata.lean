import StagedTest.Instant
import StagedTest.Value.Codec

/-!
# Metadata of cluster objects

What every object of a cluster carries: its name and namespace, labels, owners and the marks of
its life. Fields that no step of a test looks at are kept as they come.
-/
namespace StagedTest

/-- Reads a time. -/
def Instant.decode : Value → Except DecodeError Instant
  | .text written | .plain written =>
    match Instant.parse written with
    | .ok instant => .ok instant
    | .error fault => .error (.malformed fault.message)
  | other => .error (.unexpected other "an RFC 3339 formatted date and time string")

/-- Times with the fraction that they need. -/
def Instant.codec : Codec Instant := ⟨fun instant => .text instant.text, Instant.decode⟩

/-- Times of cluster objects, which are written in whole seconds. -/
def Instant.secondsCodec : Codec Instant :=
  ⟨fun instant => .text instant.secondsText, Instant.decode⟩

/-- The object that an object belongs to and is removed with. -/
structure OwnerReference where
  /-- The version of the interface that the owner belongs to. -/
  apiVersion : String
  /-- Whether the owner waits for this object before it goes. -/
  blockOwnerDeletion : Option Bool
  /-- Whether the owner is the one that manages this object. -/
  controller : Option Bool
  /-- The owner's kind. -/
  kind : String
  /-- The owner's name. -/
  name : String
  /-- The owner's identifier. -/
  uid : String
deriving DecidableEq, Inhabited, Repr

namespace OwnerReference

/-- The written form. -/
def codec : Codec OwnerReference :=
  Fields.objectCodec
    (OwnerReference.mk <$> Fields.lenient "apiVersion" .text "" apiVersion
      <*> Fields.optional "blockOwnerDeletion" .bool blockOwnerDeletion
      <*> Fields.optional "controller" .bool controller
      <*> Fields.lenient "kind" .text "" kind
      <*> Fields.lenient "name" .text "" name
      <*> Fields.lenient "uid" .text "" uid)
    "OwnerReference"

end OwnerReference

/-- The metadata of an object. -/
structure ObjectMetadata where
  /-- The object's name. -/
  name : Option String := none
  /-- What a name made up by the cluster begins with. -/
  generateName : Option String := none
  /-- The object's namespace. -/
  ns : Option String := none
  /-- The labels. -/
  labels : Option (StringMap String) := none
  /-- The annotations. -/
  annotations : Option (StringMap String) := none
  /-- The objects that this one belongs to. -/
  ownerReferences : Option (List OwnerReference) := none
  /-- When the object was made. -/
  creationTimestamp : Option Instant := none
  /-- When the object was asked to go. -/
  deletionTimestamp : Option Instant := none
  /-- How many seconds the object has to go. -/
  deletionGracePeriodSeconds : Option Int64 := none
  /-- What holds the object back from going. -/
  finalizers : Option (List String) := none
  /-- How often the object was changed. -/
  generation : Option Int64 := none
  /-- The version of the object. -/
  resourceVersion : Option String := none
  /-- The object's identifier. -/
  uid : Option String := none
  /-- Fields that are kept as they come. -/
  rest : List (String × Value) := []
deriving Inhabited

namespace ObjectMetadata

/-- The metadata of an object about which nothing is known. -/
def empty : ObjectMetadata := {}

/-- What an object is called: its name, or else what its name will begin with. -/
def displayName (metadata : ObjectMetadata) : String :=
  (metadata.name <|> metadata.generateName).getD ""

/-- Whether an object carries all of some labels. -/
def carries (metadata : ObjectMetadata) (labels : StringMap String) : Bool :=
  labels.entries.all fun (label, value) =>
    (metadata.labels.bind (·.get? label)) == some value

/-- The written form. -/
def codec : Codec ObjectMetadata :=
  Fields.objectCodec
    (ObjectMetadata.mk <$> Fields.optional "name" .text name
      <*> Fields.optional "generateName" .text generateName
      <*> Fields.optional "namespace" .text ns
      <*> Fields.optional "labels" (.map .text) labels
      <*> Fields.optional "annotations" (.map .text) annotations
      <*> Fields.optional "ownerReferences" OwnerReference.codec.list ownerReferences
      <*> Fields.optional "creationTimestamp" Instant.secondsCodec creationTimestamp
      <*> Fields.optional "deletionTimestamp" Instant.secondsCodec deletionTimestamp
      <*> Fields.optional "deletionGracePeriodSeconds" .int64 deletionGracePeriodSeconds
      <*> Fields.optional "finalizers" (.list .text) finalizers
      <*> Fields.optional "generation" .int64 generation
      <*> Fields.optional "resourceVersion" .text resourceVersion
      <*> Fields.optional "uid" .text uid
      <*> Fields.kept ["clusterName", "managedFields", "selfLink"] rest)
    "ObjectMeta"

end ObjectMetadata

end StagedTest
