import StagedTest.Metadata

/-!
# Statuses of pods

What a cluster says of a pod that it runs: the pod's phase, and the state of each container.
-/
namespace StagedTest

/-- How a container ended. -/
structure Termination where
  /-- The container's identifier. -/
  containerId : Option String := none
  /-- The exit code; zero means that all went well. -/
  exitCode : Int32
  /-- When the container ended. -/
  finishedAt : Option Instant := none
  /-- The last words of the container. -/
  message : Option String := none
  /-- Why the container ended, in a word. -/
  reason : Option String := none
  /-- The signal that ended it. -/
  signal : Option Int32 := none
  /-- When the container started. -/
  startedAt : Option Instant := none
deriving Inhabited

/-- The written form of an end. -/
def Termination.codec : Codec Termination :=
  Fields.objectCodec
    (Termination.mk <$> Fields.optional "containerID" .text containerId
      <*> Fields.lenient "exitCode" .int32 0 exitCode
      <*> Fields.optional "finishedAt" Instant.secondsCodec finishedAt
      <*> Fields.optional "message" .text message
      <*> Fields.optional "reason" .text reason
      <*> Fields.optional "signal" .int32 signal
      <*> Fields.optional "startedAt" Instant.secondsCodec startedAt)
    "ContainerStateTerminated"

/-- The state of a container that runs. -/
structure RunningState where
  /-- When the container started. -/
  startedAt : Option Instant := none
deriving Inhabited

/-- The written form of a running state. -/
def RunningState.codec : Codec RunningState :=
  Fields.objectCodec
    (RunningState.mk <$> Fields.optional "startedAt" Instant.secondsCodec startedAt)
    "ContainerStateRunning"

/-- The state of a container that has not started yet. -/
structure WaitingState where
  /-- What it waits for, in detail. -/
  message : Option String := none
  /-- What it waits for, in a word. -/
  reason : Option String := none
deriving Inhabited

/-- The written form of a waiting state. -/
def WaitingState.codec : Codec WaitingState :=
  Fields.objectCodec
    (WaitingState.mk <$> Fields.optional "message" .text message
      <*> Fields.optional "reason" .text reason)
    "ContainerStateWaiting"

/-- The state of a container, of whose parts at most one is expected to be there. -/
structure ContainerState where
  /-- The container runs. -/
  running : Option RunningState := none
  /-- The container has ended. -/
  terminated : Option Termination := none
  /-- The container has not started. -/
  waiting : Option WaitingState := none
deriving Inhabited

/-- The written form of a container's state. -/
def ContainerState.codec : Codec ContainerState :=
  Fields.objectCodec
    (ContainerState.mk <$> Fields.optional "running" RunningState.codec running
      <*> Fields.optional "terminated" Termination.codec terminated
      <*> Fields.optional "waiting" WaitingState.codec waiting)
    "ContainerState"

/-- What a cluster says of a container. -/
structure ContainerStatus where
  /-- The container's identifier. -/
  containerId : Option String := none
  /-- The image that it runs. -/
  image : String := ""
  /-- The image's identifier. -/
  imageId : String := ""
  /-- The state before the last restart. -/
  lastState : Option ContainerState := none
  /-- The container's name. -/
  name : String
  /-- Whether the container can do its work. -/
  ready : Bool := false
  /-- How often it was restarted. -/
  restartCount : Int32 := 0
  /-- Whether it has started. -/
  started : Option Bool := none
  /-- The present state. -/
  state : Option ContainerState := none
deriving Inhabited

namespace ContainerStatus

/-- How the container ended, if it has ended. -/
def termination? (status : ContainerStatus) : Option Termination :=
  status.state.bind (·.terminated)

/-- The written form. -/
def codec : Codec ContainerStatus :=
  Fields.objectCodec
    (ContainerStatus.mk <$> Fields.optional "containerID" .text containerId
      <*> Fields.lenient "image" .text "" image
      <*> Fields.lenient "imageID" .text "" imageId
      <*> Fields.optional "lastState" ContainerState.codec lastState
      <*> Fields.lenient "name" .text "" name
      <*> Fields.lenient "ready" .bool false ready
      <*> Fields.lenient "restartCount" .int32 0 restartCount
      <*> Fields.optional "started" .bool started
      <*> Fields.optional "state" ContainerState.codec state)
    "ContainerStatus"

end ContainerStatus

/-- What a cluster says of a pod. -/
structure PodStatus where
  /-- How far the pod has come, in a word. -/
  phase : Option String := none
  /-- Why the pod is in this phase, in a word. -/
  reason : Option String := none
  /-- Why the pod is in this phase, in detail. -/
  message : Option String := none
  /-- The containers that run first, one after the other. -/
  initContainerStatuses : Option (List ContainerStatus) := none
  /-- The containers of the pod. -/
  containerStatuses : Option (List ContainerStatus) := none
  /-- Containers that were added later. -/
  ephemeralContainerStatuses : Option (List ContainerStatus) := none
  /-- When the cluster took the pod on. -/
  startTime : Option Instant := none
  /-- Fields that are kept as they come. -/
  rest : List (String × Value) := []
deriving Inhabited

namespace PodStatus

/-- The phase of a pod whose containers have all ended well. -/
def succeeded : String := "Succeeded"

/-- The phase of a pod of which a container has failed. -/
def failed : String := "Failed"

/-- The phase of a pod whose containers run. -/
def running : String := "Running"

/-- The reason of a pod that was stopped because it ran too long. -/
def deadlineExceeded : String := "DeadlineExceeded"

/-- The statuses of the containers, in the order in which the containers start. -/
def containers (status : PodStatus) : List ContainerStatus :=
  status.initContainerStatuses.getD [] ++ status.containerStatuses.getD []

/-- The written form. -/
def codec : Codec PodStatus :=
  Fields.objectCodec
    (PodStatus.mk <$> Fields.optional "phase" .text phase
      <*> Fields.optional "reason" .text reason
      <*> Fields.optional "message" .text message
      <*> Fields.optional "initContainerStatuses" ContainerStatus.codec.list initContainerStatuses
      <*> Fields.optional "containerStatuses" ContainerStatus.codec.list containerStatuses
      <*> Fields.optional "ephemeralContainerStatuses" ContainerStatus.codec.list
        ephemeralContainerStatuses
      <*> Fields.optional "startTime" Instant.secondsCodec startTime
      <*> Fields.kept
        ["conditions", "hostIP", "nominatedNodeName", "podIP", "podIPs", "qosClass"] rest)
    "PodStatus"

end PodStatus

end StagedTest
