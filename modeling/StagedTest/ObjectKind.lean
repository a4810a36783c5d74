import StagedTest.Value.Codec

/-!
# Kinds of cluster objects

The five kinds of object that a test works with, and where the cluster's interface keeps them.
-/
namespace StagedTest

/-- A kind of cluster object. -/
inductive ObjectKind
  /-- A group of containers that run together. -/
  | pod
  /-- Named bytes. -/
  | secret
  /-- An identity that pods run as. -/
  | serviceAccount
  /-- A list of permissions. -/
  | role
  /-- The grant of a role to identities. -/
  | roleBinding
deriving DecidableEq, Inhabited, Repr

namespace ObjectKind

/-- All kinds. -/
def all : List ObjectKind := [.pod, .secret, .serviceAccount, .role, .roleBinding]

/-- What a kind is called. -/
def name : ObjectKind → String
  | .pod => "Pod"
  | .secret => "Secret"
  | .serviceAccount => "ServiceAccount"
  | .role => "Role"
  | .roleBinding => "RoleBinding"

/-- The kind of a given name. -/
def ofName? (name : String) : Option ObjectKind := all.find? (·.name == name)

/-- The group of the permissions. -/
def accessGroup : String := "rbac.authorization.k8s.io"

/-- The version of the interface that a kind belongs to. -/
def apiVersion : ObjectKind → String
  | .pod | .secret | .serviceAccount => "v1"
  | .role | .roleBinding => accessGroup ++ "/v1"

/-- The word for several objects of a kind. -/
def plural : ObjectKind → String
  | .pod => "pods"
  | .secret => "secrets"
  | .serviceAccount => "serviceaccounts"
  | .role => "roles"
  | .roleBinding => "rolebindings"

/-- The beginning of the paths of a kind. -/
def root : ObjectKind → String
  | .pod | .secret | .serviceAccount => "/api/"
  | .role | .roleBinding => "/apis/"

/-- The path of all objects of a kind in a namespace. -/
def path (kind : ObjectKind) (ns : String) : String :=
  kind.root ++ kind.apiVersion ++ "/namespaces/" ++ ns ++ "/" ++ kind.plural

end ObjectKind

/-- The codec of a kind of object, which says of itself what it is. -/
def Fields.clusterCodec {α : Type} (group : Fields α α) (kind : ObjectKind) : Codec α :=
  Fields.objectCodec
    ((fun _ _ value => value) <$> Fields.constant "apiVersion" kind.apiVersion
      <*> Fields.constant "kind" kind.name <*> group)
    kind.name

end StagedTest
