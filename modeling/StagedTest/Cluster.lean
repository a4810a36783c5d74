import StagedTest.ImageTag
import StagedTest.Object
import StagedTest.PodRecord
import StagedTest.Program
import StagedTest.WaitError

/-!
# The cluster as a run sees it

A run asks the cluster for seven things, and asks whether it was called off. Whatever stands
behind the answers, a run learns nothing else.
-/
namespace StagedTest

/-- Who may call off the waiting for a pod. -/
inductive Token
  /-- Whoever started the run. -/
  | caller
  /-- Nobody outside: the cleanup goes on whatever the caller does. -/
  | detached
deriving DecidableEq, Inhabited, Repr

/-- What came of watching a pod. -/
structure Watch where
  /-- The states of the pod that were written down, in order. -/
  seen : List Pod
  /-- The pod as it succeeded, or how the wait ended otherwise. -/
  result : Except WaitError Pod

namespace Watch

/-- What is written down of a watched pod. -/
def record (watch : Watch) : PodRecord := PodRecord.empty.observeAll watch.seen

end Watch

/-- What a run asks for. -/
inductive ClusterCall
  /-- Create an object in a namespace. -/
  | create (ns : String) (object : Object)
  /-- Read a secret. -/
  | readSecret (ns name : String)
  /-- Delete a secret. -/
  | deleteSecret (ns name : String)
  /-- Delete the pods of a namespace that carry all of some labels. -/
  | deletePods (ns : String) (labels : StringMap String)
  /-- Create a pod, in place of one that is left over from an earlier run. -/
  | submitPod (pod : Pod)
  /-- Watch a pod until it ends or the wait is called off. -/
  | awaitPod (token : Token) (ns name : String)
  /-- Find out from where an image is pulled. -/
  | pullSpec (ns : String) (image : ImageTag)
  /-- Find out whether the wait for pods was called off. -/
  | isCancelled (token : Token)

/-- What the cluster answers. -/
def ClusterCall.Answer : ClusterCall → Type
  | .create .. => Except ClientError Unit
  | .readSecret .. => Except ClientError Secret
  | .deleteSecret .. => Except ClientError Unit
  | .deletePods .. => Except ClientError Unit
  | .submitPod _ => Except ClientError Unit
  | .awaitPod .. => Watch
  | .pullSpec .. => Except ClientError String
  | .isCancelled _ => Bool

/-- The cluster as a run sees it. -/
def Cluster : Interface := ⟨ClusterCall, ClusterCall.Answer⟩

namespace Cluster

/-- Creates an object. -/
def create (ns : String) (object : Object) : Program Cluster (Except ClientError Unit) :=
  Program.ask (I := Cluster) (.create ns object)

/-- Reads a secret. -/
def readSecret (ns name : String) : Program Cluster (Except ClientError Secret) :=
  Program.ask (I := Cluster) (.readSecret ns name)

/-- Deletes a secret. -/
def deleteSecret (ns name : String) : Program Cluster (Except ClientError Unit) :=
  Program.ask (I := Cluster) (.deleteSecret ns name)

/-- Deletes the pods that carry all of some labels. -/
def deletePods (ns : String) (labels : StringMap String) :
    Program Cluster (Except ClientError Unit) :=
  Program.ask (I := Cluster) (.deletePods ns labels)

/-- Creates a pod, in place of one that is left over from an earlier run. -/
def submitPod (pod : Pod) : Program Cluster (Except ClientError Unit) :=
  Program.ask (I := Cluster) (.submitPod pod)

/-- Watches a pod. -/
def awaitPod (token : Token) (ns name : String) : Program Cluster Watch :=
  Program.ask (I := Cluster) (.awaitPod token ns name)

/-- Finds out from where an image is pulled. -/
def pullSpec (ns : String) (image : ImageTag) : Program Cluster (Except ClientError String) :=
  Program.ask (I := Cluster) (.pullSpec ns image)

/-- Finds out whether the wait for pods was called off. -/
def isCancelled (token : Token) : Program Cluster Bool :=
  Program.ask (I := Cluster) (.isCancelled token)

end Cluster

end StagedTest
