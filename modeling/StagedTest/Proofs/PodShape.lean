import StagedTest.Proofs.VolumeNames

/-!
# Pods whose parts fit together

The parts of a step's pod are put together one by one, and they depend on each other: what a
container mounts has to be a volume of the pod, and a command that goes through the wrapper needs a
container that copies the wrapper to where the step's container finds it. The main statement says
that the parts of every pod that is built fit together, whatever its step asks for.
-/
namespace StagedTest

open Program

/-- The arguments that a container starts with, its program among them. -/
def Container.arguments (container : Container) : List String :=
  container.command.getD [] ++ container.args.getD []

namespace Step

/-- The script of a step: the first lines of every script, the line for the command line tool if the
step gets it, and then the commands of the step as they are. -/
def script (step : Step) : String :=
  "\n".intercalate
    (Preamble.lines ++ (if step.cli.isSome then [Preamble.exportCli] else []) ++ [step.commands])

/-- The parts of a pod, in which a container runs a step, fit together. -/
structure Fits (step : Step) (pod : Pod) (container : Container) : Prop where
  /-- The pod has one container besides those that prepare. -/
  only : pod.working = [container]
  /-- It is called after what it does. -/
  named : container.name = "test"
  /-- The wrapper is copied unless the step only reads the shared directory, and the command line
  tool is copied if the step gets it. -/
  preparing : pod.preparing.map (·.name) =
    (if step.readonlySharedDirectory then [] else ["cp-secret-wrapper"]) ++
      if step.cli.isSome then ["inject-cli"] else []
  /-- Each mount is of a volume. -/
  mounts : ∀ other ∈ pod.preparing ++ pod.working, ∀ mount ∈ other.mounts,
    ∃ volume ∈ pod.volumes, volume.name = mount.name
  /-- Each volume is mounted where the step runs. -/
  mounted : ∀ volume ∈ pod.volumes, ∃ mount ∈ container.mounts, mount.name = volume.name
  /-- The script is run by a shell, through the wrapper unless the step only reads the shared
  directory. -/
  arguments : container.arguments =
    (if step.readonlySharedDirectory then [] else [Path.wrapper]) ++
      ["/bin/bash", "-c", step.script]
  /-- The wrapper that the script is run through is what was copied, to a directory that both
  containers mount from one volume. -/
  wrapper : step.readonlySharedDirectory = false →
    ∃ copy ∈ pod.preparing, ∃ source directory file volume,
      copy.name = "cp-secret-wrapper" ∧ copy.arguments = ["cp", source, Path.wrapper] ∧
      Path.wrapper = directory ++ "/" ++ file ∧ '/' ∉ file.toList ∧ volume ∈ pod.volumes ∧
      ∀ other ∈ [copy, container], ∃ mount ∈ other.mounts,
        mount.name = volume.name ∧ mount.mountPath = directory

end Step

/-! ## The parts of a workload's pod -/

namespace Workload

variable (workload : Workload)

/-- What is attached to a step's pod is a volume of it. -/
theorem volume_mem {attachment : Attachment} (attached : attachment ∈ workload.attachments) :
    attachment.volume ∈ workload.pod.volumes :=
  List.mem_map_of_mem attached

/-- What is attached to a step's pod is mounted where the step runs. -/
theorem mount_mem {attachment : Attachment} (attached : attachment ∈ workload.attachments) :
    attachment.mount ∈ workload.container.mounts :=
  List.mem_map_of_mem attached

/-- The wrapper is attached to the pod of a step whose command goes through it. -/
theorem wrapper_mem (wrapped : workload.isWrapped = true) : wrapper ∈ workload.attachments := by
  simp [attachments, wrapped]

/-- The names of the containers that prepare. -/
theorem names_preparing : workload.pod.preparing.map (·.name) =
    (if workload.step.readonlySharedDirectory then [] else ["cp-secret-wrapper"]) ++
      if workload.step.cli.isSome then ["inject-cli"] else [] := by
  rw [preparing_pod, initContainers, List.map_append, isWrapped, Step.cliImageName?]
  congr 1
  · cases workload.step.readonlySharedDirectory <;> rfl
  · cases workload.step.cli <;> rfl

/-- The container of a step runs the step's script. -/
theorem script_eq : workload.script = workload.step.script := by
  have tool : (workload.step.cli.toList.map fun _ => Preamble.exportCli) =
      if workload.step.cli.isSome then [Preamble.exportCli] else [] := by
    cases workload.step.cli <;> rfl
  have some : ∀ more, Preamble.lines ++ more ≠ [] := fun _ => List.cons_ne_nil _ _
  rw [script, Step.script, tool,
    String.intercalate_append_of_ne_nil (some _) (List.cons_ne_nil workload.step.commands []),
    String.intercalate_singleton]

/-- The container of a step starts the shell with the script, through the wrapper or not. -/
theorem arguments_container : workload.container.arguments =
    (if workload.step.readonlySharedDirectory then [] else [Path.wrapper]) ++
      ["/bin/bash", "-c", workload.step.script] := by
  change (if workload.isWrapped then [Path.wrapper] else workload.shell) ++
    (if workload.isWrapped then some workload.shell else none).getD [] = _
  rw [isWrapped, shell, script_eq]
  cases workload.step.readonlySharedDirectory <;> rfl

/-- The parts of a step's pod fit together. -/
theorem fits_pod : workload.step.Fits workload.pod workload.container where
  only := rfl
  named := rfl
  preparing := workload.names_preparing
  mounts other ofPod mount mounted := by
    obtain ⟨attachment, attached, rfl⟩ := workload.attached_of_mounted ofPod mounted
    exact ⟨attachment.volume, workload.volume_mem attached, rfl⟩
  mounted volume member := by
    obtain ⟨attachment, attached, rfl⟩ := List.mem_map.1 member
    exact ⟨attachment.mount, workload.mount_mem attached, rfl⟩
  arguments := workload.arguments_container
  wrapper writes := by
    have wrapped : workload.isWrapped = true := by rw [isWrapped, writes]; rfl
    have prepares : copyWrapper ∈ workload.pod.preparing := by
      rw [preparing_pod, initContainers, if_pos wrapped]
      exact List.mem_cons_self
    have attached := workload.wrapper_mem wrapped
    refine ⟨copyWrapper, prepares, Path.wrapperSource, Path.wrapperDirectory, "secret-wrapper",
      wrapper.volume, rfl, rfl, by decide, by decide, workload.volume_mem attached, ?_⟩
    intro other both
    rcases List.mem_pair.1 both with rfl | rfl
    · exact ⟨wrapper.mount, List.mem_singleton_self _, rfl, rfl⟩
    · exact ⟨wrapper.mount, workload.mount_mem attached, rfl, rfl⟩

end Workload

/-! ## Pods that are built -/

/-- The parts of a pod that is built for a step fit together, whatever the step asks for and
whatever is answered while it is built. -/
theorem Batch.fits_of_buildPod {plan : Plan} {shared : List EnvVar} {step : Step}
    {history : History Cluster} {pod : Pod}
    (built : (buildPod plan shared step).Ends history (.ok pod)) :
    ∃ container, step.Fits pod container := by
  obtain ⟨workload, rfl, rfl, rfl⟩ := workload_of_buildPod built
  exact ⟨workload.container, workload.fits_pod⟩

/-- The parts of the pod of the small test's first step fit together, also when the step gets the
command line tool. -/
theorem Batch.fits_prepare_with_cli :
    ∃ pod, ((buildPod .small [] { Step.prepare with cli := some "latest" }).run Rehearsal.handler
        (.small [])).1 = .ok pod ∧
      pod.preparing.map (·.name) = ["cp-secret-wrapper", "inject-cli"] ∧
      ∃ container, Step.Fits { Step.prepare with cli := some "latest" } pod container :=
  ⟨_, rfl, rfl, fits_of_buildPod (ends_run Rehearsal.handler
    (buildPod .small [] { Step.prepare with cli := some "latest" }) (.small []))⟩

end StagedTest
