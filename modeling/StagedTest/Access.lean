import StagedTest.Conventions
import StagedTest.Metadata
import StagedTest.Naming
import StagedTest.ObjectKind

/-!
# Access

The pods of a test run as an identity of the test's name, which may do three things: bind
further roles, read and write the shared secret, and pull images.
-/
namespace StagedTest

/-- An identity that pods run as. -/
structure ServiceAccount where
  /-- The metadata. -/
  metadata : ObjectMetadata := {}
  /-- Fields that are kept as they come. -/
  rest : List (String × Value) := []
deriving Inhabited

/-- A permission. -/
structure PolicyRule where
  /-- The groups of the interface. -/
  apiGroups : Option (List String) := none
  /-- Paths outside the objects. -/
  nonResourceUrls : Option (List String) := none
  /-- The names of the objects; all of them if none are named. -/
  resourceNames : Option (List String) := none
  /-- The objects. -/
  resources : Option (List String) := none
  /-- What may be done. -/
  verbs : List String
deriving Inhabited

/-- A list of permissions. -/
structure Role where
  /-- The metadata. -/
  metadata : ObjectMetadata := {}
  /-- The permissions. -/
  rules : Option (List PolicyRule) := none
deriving Inhabited

/-- The role that is granted. -/
structure RoleReference where
  /-- The group that the role belongs to. -/
  apiGroup : String
  /-- The kind of role. -/
  kind : String
  /-- The name of the role. -/
  name : String
deriving Inhabited

/-- Who is granted a role. -/
structure Subject where
  /-- The group that the identity belongs to. -/
  apiGroup : Option String := none
  /-- The kind of identity. -/
  kind : String
  /-- The name of the identity. -/
  name : String
  /-- The namespace of the identity. -/
  ns : Option String := none
deriving Inhabited

/-- The grant of a role. -/
structure RoleBinding where
  /-- The metadata. -/
  metadata : ObjectMetadata := {}
  /-- The role. -/
  roleRef : RoleReference
  /-- Who is granted it. -/
  subjects : Option (List Subject) := none
deriving Inhabited

/-- The written form of an identity. -/
def ServiceAccount.codec : Codec ServiceAccount :=
  Fields.clusterCodec
    (ServiceAccount.mk <$> Fields.lenient "metadata" ObjectMetadata.codec {} metadata
      <*> Fields.kept ["automountServiceAccountToken", "imagePullSecrets", "secrets"] rest)
    .serviceAccount

/-- The written form of a permission. -/
def PolicyRule.codec : Codec PolicyRule :=
  Fields.objectCodec
    (PolicyRule.mk <$> Fields.optional "apiGroups" (.list .text) apiGroups
      <*> Fields.optional "nonResourceURLs" (.list .text) nonResourceUrls
      <*> Fields.optional "resourceNames" (.list .text) resourceNames
      <*> Fields.optional "resources" (.list .text) resources
      <*> Fields.lenient "verbs" (.list .text) [] verbs)
    "PolicyRule"

/-- The written form of a list of permissions. -/
def Role.codec : Codec Role :=
  Fields.clusterCodec
    (Role.mk <$> Fields.lenient "metadata" ObjectMetadata.codec {} metadata
      <*> Fields.optional "rules" PolicyRule.codec.list rules)
    .role

/-- The written form of a reference to a role. -/
def RoleReference.codec : Codec RoleReference :=
  Fields.objectCodec
    (RoleReference.mk <$> Fields.lenient "apiGroup" .text "" apiGroup
      <*> Fields.lenient "kind" .text "" kind
      <*> Fields.lenient "name" .text "" name)
    "RoleRef"

/-- The written form of a grantee. -/
def Subject.codec : Codec Subject :=
  Fields.objectCodec
    (Subject.mk <$> Fields.optional "apiGroup" .text apiGroup
      <*> Fields.lenient "kind" .text "" kind
      <*> Fields.lenient "name" .text "" name
      <*> Fields.optional "namespace" .text ns)
    "Subject"

/-- The written form of a grant. -/
def RoleBinding.codec : Codec RoleBinding :=
  Fields.clusterCodec
    (RoleBinding.mk <$> Fields.lenient "metadata" ObjectMetadata.codec {} metadata
      <*> Fields.lenient "roleRef" RoleReference.codec ⟨"", "", ""⟩ roleRef
      <*> Fields.optional "subjects" Subject.codec.list subjects)
    .roleBinding

namespace Access

/-- The labels of a test's objects. -/
def labels (test : String) : StringMap String := .ofList [(Label.test, test)]

/-- The metadata that the objects of this module share. -/
def metadata (ns test : String) : ObjectMetadata :=
  { name := some test, ns := some ns, labels := some (labels test) }

/-- The identity that the pods of a test run as. -/
def serviceAccount (ns test : String) : ServiceAccount := { metadata := metadata ns test }

/-- What the pods of a test may do. -/
def rules (test : String) : List PolicyRule :=
  [ { apiGroups := some [ObjectKind.accessGroup]
      resources := some ["rolebindings"]
      verbs := ["create", "list"] }
  , { apiGroups := some [""]
      resources := some ["secrets"]
      resourceNames := some [Naming.sharedSecret test]
      verbs := ["get", "update"] }
  , { apiGroups := some ["", "image.openshift.io"]
      resources := some ["imagestreams/layers"]
      verbs := ["get"] } ]

/-- The role of the pods of a test. -/
def role (ns test : String) : Role :=
  { metadata := metadata ns test, rules := some (rules test) }

/-- The grant of the role to the identity of a test. -/
def roleBinding (ns test : String) : RoleBinding :=
  { metadata := metadata ns test
    roleRef := ⟨ObjectKind.accessGroup, ObjectKind.role.name, test⟩
    subjects := some [{ kind := ObjectKind.serviceAccount.name, name := test, ns := some ns }] }

end Access

end StagedTest
