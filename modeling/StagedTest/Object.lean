import StagedTest.Access
import StagedTest.Pod
import StagedTest.Secret

/-!
# Cluster objects

An object of any of the five kinds, with what all of them have in common.
-/
namespace StagedTest

/-- An object of a cluster. -/
inductive Object
  /-- A pod. -/
  | pod (object : Pod)
  /-- A secret. -/
  | secret (object : Secret)
  /-- An identity. -/
  | serviceAccount (object : ServiceAccount)
  /-- A list of permissions. -/
  | role (object : Role)
  /-- The grant of a role. -/
  | roleBinding (object : RoleBinding)
deriving Inhabited

namespace Object

/-- The kind of an object. -/
def kind : Object → ObjectKind
  | .pod _ => .pod
  | .secret _ => .secret
  | .serviceAccount _ => .serviceAccount
  | .role _ => .role
  | .roleBinding _ => .roleBinding

/-- The metadata of an object. -/
def metadata : Object → ObjectMetadata
  | .pod object => object.metadata
  | .secret object => object.metadata
  | .serviceAccount object => object.metadata
  | .role object => object.metadata
  | .roleBinding object => object.metadata

/-- What an object is called. -/
def displayName (object : Object) : String := object.metadata.displayName

/-- The written form of an object. -/
def print : Object → Value
  | .pod object => Pod.codec.print object
  | .secret object => Secret.codec.print object
  | .serviceAccount object => ServiceAccount.codec.print object
  | .role object => Role.codec.print object
  | .roleBinding object => RoleBinding.codec.print object

/-- Reads an object of a kind. -/
def decode (kind : ObjectKind) (value : Value) : Except DecodeError Object :=
  match kind with
  | .pod => (Pod.codec.decode value).map .pod
  | .secret => (Secret.codec.decode value).map .secret
  | .serviceAccount => (ServiceAccount.codec.decode value).map .serviceAccount
  | .role => (Role.codec.decode value).map .role
  | .roleBinding => (RoleBinding.codec.decode value).map .roleBinding

/-- The pod that an object is. -/
def pod? : Object → Option Pod
  | .pod object => some object
  | _ => none

/-- The secret that an object is. -/
def secret? : Object → Option Secret
  | .secret object => some object
  | _ => none

end Object

end StagedTest
