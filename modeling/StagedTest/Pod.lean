import StagedTest.Container
import StagedTest.ObjectKind
import StagedTest.Pod.Status

/-!
# Pods

A pod runs one step. Its specification says what to run and its status how far it has come; the
functions here read off a status whether the pod has ended, and why it failed.
-/
namespace StagedTest

/-- A directory that starts empty. -/
structure EmptyDirectory where
  /-- Fields that are kept as they come. -/
  rest : List (String × Value) := []
deriving Inhabited

/-- A secret as a directory. -/
structure SecretDirectory where
  /-- The secret. -/
  secretName : Option String := none
  /-- Fields that are kept as they come. -/
  rest : List (String × Value) := []
deriving Inhabited

/-- A directory that the containers of a pod share. -/
structure Volume where
  /-- The name. -/
  name : String
  /-- The directory starts empty. -/
  emptyDir : Option EmptyDirectory := none
  /-- The directory holds a secret. -/
  secret : Option SecretDirectory := none
  /-- Fields that are kept as they come. -/
  rest : List (String × Value) := []
deriving Inhabited

/-- What a pod runs. -/
structure PodSpec where
  /-- After how many seconds the pod is stopped. -/
  activeDeadlineSeconds : Option Int64 := none
  /-- The containers. -/
  containers : List Container := []
  /-- Containers that run first, one after the other. -/
  initContainers : Option (List Container) := none
  /-- Whether containers that have ended start again. -/
  restartPolicy : Option String := none
  /-- The identity that the pod runs as. -/
  serviceAccountName : Option String := none
  /-- How many seconds a stopped pod has for its cleanup. -/
  terminationGracePeriodSeconds : Option Int64 := none
  /-- The shared directories. -/
  volumes : Option (List Volume) := none
  /-- Fields that are kept as they come. -/
  rest : List (String × Value) := []
deriving Inhabited

/-- A group of containers that run together. -/
structure Pod where
  /-- The metadata. -/
  metadata : ObjectMetadata := {}
  /-- What the pod runs. -/
  spec : Option PodSpec := none
  /-- How far the pod has come. -/
  status : Option PodStatus := none
deriving Inhabited

/-- The written form of an empty directory. -/
def EmptyDirectory.codec : Codec EmptyDirectory :=
  Fields.objectCodec (EmptyDirectory.mk <$> Fields.kept ["medium", "sizeLimit"] rest)
    "EmptyDirVolumeSource"

/-- The written form of a secret's directory. -/
def SecretDirectory.codec : Codec SecretDirectory :=
  Fields.objectCodec
    (SecretDirectory.mk <$> Fields.optional "secretName" .text secretName
      <*> Fields.kept ["defaultMode", "items", "optional"] rest)
    "SecretVolumeSource"

namespace Volume

/-- A volume that starts empty. -/
def empty (name : String) : Volume := { name, emptyDir := some {} }

/-- A volume that holds a secret. -/
def ofSecret (name secret : String) : Volume :=
  { name, secret := some { secretName := some secret } }

/-- The written form. -/
def codec : Codec Volume :=
  Fields.objectCodec
    (Volume.mk <$> Fields.lenient "name" .text "" name
      <*> Fields.optional "emptyDir" EmptyDirectory.codec emptyDir
      <*> Fields.optional "secret" SecretDirectory.codec secret
      <*> Fields.kept
        [ "awsElasticBlockStore", "azureDisk", "azureFile", "cephfs", "cinder", "configMap", "csi"
        , "downwardAPI", "ephemeral", "fc", "flexVolume", "flocker", "gcePersistentDisk", "gitRepo"
        , "glusterfs", "hostPath", "iscsi", "nfs", "persistentVolumeClaim", "photonPersistentDisk"
        , "portworxVolume", "projected", "quobyte", "rbd", "scaleIO", "storageos"
        , "vsphereVolume" ] rest)
    "Volume"

end Volume

/-- The written form of a specification. -/
def PodSpec.codec : Codec PodSpec :=
  Fields.objectCodec
    (PodSpec.mk <$> Fields.optional "activeDeadlineSeconds" .int64 activeDeadlineSeconds
      <*> Fields.lenient "containers" Container.codec.list [] containers
      <*> Fields.optional "initContainers" Container.codec.list initContainers
      <*> Fields.optional "restartPolicy" .text restartPolicy
      <*> Fields.optional "serviceAccountName" .text serviceAccountName
      <*> Fields.optional "terminationGracePeriodSeconds" .int64 terminationGracePeriodSeconds
      <*> Fields.optional "volumes" Volume.codec.list volumes
      <*> Fields.kept
        [ "affinity", "automountServiceAccountToken", "dnsConfig", "dnsPolicy", "enableServiceLinks"
        , "ephemeralContainers", "hostAliases", "hostIPC", "hostNetwork", "hostPID", "hostname"
        , "imagePullSecrets", "nodeName", "nodeSelector", "os", "overhead", "preemptionPolicy"
        , "priority", "priorityClassName", "readinessGates", "runtimeClassName", "schedulerName"
        , "securityContext", "serviceAccount", "setHostnameAsFQDN", "shareProcessNamespace"
        , "subdomain", "tolerations", "topologySpreadConstraints" ] rest)
    "PodSpec"

namespace Pod

/-- The written form. -/
def codec : Codec Pod :=
  Fields.clusterCodec
    (Pod.mk <$> Fields.lenient "metadata" ObjectMetadata.codec {} metadata
      <*> Fields.optional "spec" PodSpec.codec spec
      <*> Fields.optional "status" PodStatus.codec status)
    .pod

/-- What the pod is called. -/
def displayName (pod : Pod) : String := pod.metadata.displayName

/-- How far the pod has come. -/
def phase? (pod : Pod) : Option String := pod.status.bind (·.phase)

/-- Why the pod is in its phase. -/
def reason? (pod : Pod) : Option String := pod.status.bind (·.reason)

/-- Whether all of the pod's containers have ended well. -/
def isSucceeded (pod : Pod) : Bool := pod.phase? == some PodStatus.succeeded

/-- Whether one of the pod's containers has failed. -/
def isFailed (pod : Pod) : Bool := pod.phase? == some PodStatus.failed

/-- Whether the pod has ended. -/
def isTerminal (pod : Pod) : Bool := pod.isSucceeded || pod.isFailed

/-- Whether the pod was stopped because it ran too long. -/
def isDeadlineExceeded (pod : Pod) : Bool :=
  pod.isFailed && pod.reason? == some PodStatus.deadlineExceeded

/-- The statuses of the containers, in the order in which the containers start. -/
def containerStatuses (pod : Pod) : List ContainerStatus :=
  (pod.status.map (·.containers)).getD []

/-- After how many seconds the pod is stopped. -/
def activeDeadlineSeconds? (pod : Pod) : Option Int64 := pod.spec.bind (·.activeDeadlineSeconds)

/-- The containers that have failed, with their exit codes. -/
def failures (pod : Pod) : List (String × Int32) :=
  pod.containerStatuses.filterMap fun status =>
    match status.termination? with
    | some termination =>
      if termination.exitCode = 0 then none else some (status.name, termination.exitCode)
    | none => none

/-- Why the pod failed, in one line. -/
def failureMessage (pod : Pod) : String :=
  let reason := match pod.reason? with
    | some reason => " with reason " ++ reason
    | none => ""
  let failures := pod.failures.map fun (name, code) => s!"{name} (exit code {code})"
  let listed := if failures.isEmpty then "" else
    ", failed containers: " ++ ", ".intercalate failures
  let detail := match pod.status.bind (·.message) with
    | some message => ": " ++ message
    | none => ""
  "the pod failed" ++ reason ++ listed ++ detail

end Pod

end StagedTest
