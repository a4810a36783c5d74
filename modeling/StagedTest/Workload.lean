import StagedTest.Access
import StagedTest.Plan
import StagedTest.Pod
import StagedTest.Requirements

/-!
# Workloads

The pod that a step becomes. Each part of the pod is a list that is put together from what the
step and the test ask for: the volumes with the places where they are mounted, the environment,
the containers that prepare, and the script. The environment lists the later words last, because
the last entry of a variable is the one that counts.
-/
namespace StagedTest

/-- A volume and where the step's container finds it. -/
structure Attachment where
  /-- The volume. -/
  volume : Volume
  /-- Where the container finds it. -/
  path : String

/-- How the step's container mounts an attachment. -/
def Attachment.mount (attachment : Attachment) : VolumeMount :=
  { name := attachment.volume.name, mountPath := attachment.path }

/-- What is known of a step when its pod is built. -/
structure Workload where
  /-- The plan that the step belongs to. -/
  plan : Plan
  /-- The step. -/
  step : Step
  /-- The environment that all steps of the test share. -/
  shared : List EnvVar
  /-- The values of the step's parameters. -/
  parameters : List EnvVar
  /-- The pull specs of the step's dependencies. -/
  dependencies : List EnvVar

namespace Workload

/-- Where a container's last words are taken from when it leaves none. -/
def messageFromLogs : String := "FallbackToLogsOnError"

/-- Whether the step's command goes through the wrapper that saves the shared directory. -/
def isWrapped (workload : Workload) : Bool := !workload.step.readonlySharedDirectory

/-- The attachment of the artifacts. -/
def artifacts : Attachment := ⟨.empty VolumeName.artifacts, Path.artifacts⟩

/-- The attachment of the home directory. -/
def home : Attachment := ⟨.empty VolumeName.home, Path.home⟩

/-- The attachment of the wrapper. -/
def wrapper : Attachment := ⟨.empty VolumeName.wrapper, Path.wrapperDirectory⟩

/-- The attachment of the release's command line tool. -/
def cli : Attachment := ⟨.empty VolumeName.cli, Path.cli⟩

/-- The attachment of the cluster profile. -/
def profile (test : String) : Attachment :=
  ⟨.ofSecret VolumeName.profile (Naming.profileSecret test), Path.profile⟩

/-- The attachment of the shared directory. -/
def sharedDirectory (test : String) : Attachment :=
  ⟨.ofSecret (Naming.sharedSecret test) (Naming.sharedSecret test), Path.sharedDirectory⟩

/-- The attachment of a credential. -/
def credential (credential : Credential) : Attachment :=
  ⟨.ofSecret credential.mirrorName credential.mirrorName, credential.mountPath⟩

/-- The volumes of the pod and where they are mounted. -/
def attachments (workload : Workload) : List Attachment :=
  let test := workload.plan.test
  (workload.step.artifactDirectory.toList.map fun _ => artifacts) ++
    [home] ++
    (if workload.isWrapped then [wrapper] else []) ++
    (workload.plan.config.clusterProfile.toList.map fun _ => profile test) ++
    (workload.step.cli.toList.map fun _ => cli) ++
    [sharedDirectory test] ++
    workload.step.credentials.map credential

/-- The variables that say where the step runs. -/
def identity (plan : Plan) : List EnvVar :=
  [ .of Variable.ns plan.ns
  , .of Variable.safeJobName (Naming.safeJobName plan.test)
  , .of Variable.jobNameHash plan.job.identifier ]

/-- The variables of a cluster profile. -/
def profileVariables (profile : ClusterProfile) : List EnvVar :=
  [ .of Variable.clusterType profile.clusterType
  , .of Variable.profileDirectory Path.profile
  , .of Variable.kubeconfig Path.kubeconfig
  , .of Variable.adminPasswordFile Path.adminPassword ]

/-- The environment of the step. -/
def environment (workload : Workload) : List EnvVar :=
  (workload.step.artifactDirectory.toList.map fun _ =>
      .of Variable.artifactDirectory Path.artifacts) ++
    identity workload.plan ++
    workload.shared ++
    workload.parameters ++
    workload.dependencies ++
    (workload.plan.config.clusterProfile.toList.flatMap profileVariables) ++
    (workload.step.cli.toList.map fun _ => .of Variable.cliDirectory Path.cli) ++
    [.of Variable.sharedDirectory Path.sharedDirectory]

/-- The container that copies the wrapper. -/
def copyWrapper : Container :=
  { name := ContainerName.copyWrapper
    image := some Registry.wrapperImage
    command := some ["cp"]
    args := some [Path.wrapperSource, Path.wrapper]
    volumeMounts := some [wrapper.mount]
    terminationMessagePolicy := some messageFromLogs }

/-- The container that copies the command line tool from an image. -/
def injectCli (image : String) : Container :=
  { name := ContainerName.injectCli
    image := some image
    command := some ["/bin/cp"]
    args := some [Path.cliSource, Path.cli]
    volumeMounts := some [cli.mount] }

/-- The containers that prepare. -/
def initContainers (workload : Workload) : List Container :=
  (if workload.isWrapped then [copyWrapper] else []) ++
    workload.step.cliImageName?.toList.map injectCli

/-- The script that the step runs. -/
def script (workload : Workload) : String :=
  "\n".intercalate (Preamble.lines ++ (workload.step.cli.toList.map fun _ => Preamble.exportCli)) ++
    "\n" ++ workload.step.commands

/-- The step's script as a command. -/
def shell (workload : Workload) : List String := ["/bin/bash", "-c", workload.script]

/-- A resource list as a container asks for it; an empty one asks for nothing. -/
def quantities (amounts : StringMap String) : Option (StringMap String) :=
  if amounts.isEmpty then none else some amounts

/-- The container that runs the step. -/
def container (workload : Workload) : Container :=
  { name := ContainerName.test
    image := some workload.step.containerImage.name
    command := some (if workload.isWrapped then [Path.wrapper] else workload.shell)
    args := if workload.isWrapped then some workload.shell else none
    env := some workload.environment
    resources := some
      { requests := quantities workload.step.resources.requests
        limits := quantities workload.step.resources.limits }
    volumeMounts := some (workload.attachments.map (·.mount))
    terminationMessagePolicy := some messageFromLogs }

/-- The metadata of the pod. -/
def metadata (workload : Workload) : ObjectMetadata :=
  { name := some (Naming.pod workload.plan.test workload.step.name)
    ns := some workload.plan.ns
    labels := some (.ofList [(Label.createdBy, "true"), (Label.test, workload.plan.test)])
    annotations := some (.ofList [(Label.saveLogs, "true")])
    ownerReferences := workload.plan.job.owner.map ([·]) }

/-- What the pod runs. -/
def spec (workload : Workload) : PodSpec :=
  { activeDeadlineSeconds := workload.step.activeDeadlineSeconds
    containers := [workload.container]
    initContainers :=
      if workload.initContainers.isEmpty then none else some workload.initContainers
    restartPolicy := some "Never"
    serviceAccountName := some workload.plan.test
    terminationGracePeriodSeconds := workload.step.terminationGracePeriodSeconds
    volumes := some (workload.attachments.map (·.volume)) }

/-- The pod that the step becomes. -/
def pod (workload : Workload) : Pod := { metadata := workload.metadata, spec := some workload.spec }

end Workload

end StagedTest
