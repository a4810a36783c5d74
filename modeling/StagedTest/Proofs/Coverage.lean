import StagedTest.Proofs.References

/-!
# What a run consumes is required

What a test requires is found before anything runs, by going through its steps, and a run finds the
images of its steps by going through them again. The main statement is that the two agree: whatever
image a run looks up, takes a command line tool from or imports, and whatever value that is produced
by something else a cluster profile comes with, is provided by what the test requires.
-/
namespace StagedTest

open Program

/-! ## What steps add to the requirements -/

namespace TestConfiguration

variable {config : TestConfiguration} {step : Step}

/-- What is required are the images that steps name, the tags of the pipeline that they run in, and
what is needed of a release. -/
theorem mem_requirements_iff {build : BuildConfiguration} {link : Link} :
    link ∈ config.requirements build ↔
      (∃ step ∈ config.steps, link ∈ step.imageLinks) ∨
        (∃ step ∈ config.steps, ∃ tag ∈ step.pipelineTags build, .internalImage tag = link) ∨
          link ∈ config.releaseLinks build := by
  have runsIn : link ∈ (config.pipelineTags build).members.map .internalImage ↔
      ∃ step ∈ config.steps, ∃ tag ∈ step.pipelineTags build, .internalImage tag = link := by
    simp only [pipelineTags, List.mem_map, StringSet.mem_ofList, List.mem_flatMap]
    constructor
    · rintro ⟨tag, ⟨step, ofTest, member⟩, same⟩
      exact ⟨step, ofTest, tag, member, same⟩
    · rintro ⟨step, ofTest, tag, member, same⟩
      exact ⟨tag, ⟨step, ofTest, member⟩, same⟩
  rw [requirements, List.mem_append, List.mem_append, List.mem_flatMap, runsIn, or_assoc]

/-- The links of the images that a step names are required. -/
theorem mem_requirements_of_step (build : BuildConfiguration) {link : Link}
    (ofTest : step ∈ config.steps) (named : link ∈ step.imageLinks) :
    link ∈ config.requirements build :=
  mem_requirements_iff.2 (.inl ⟨step, ofTest, named⟩)

/-- The pipeline tags that a step runs in are required. -/
theorem mem_requirements_of_tag (build : BuildConfiguration) {tag : String}
    (ofTest : step ∈ config.steps) (runsIn : tag ∈ step.pipelineTags build) :
    .internalImage tag ∈ config.requirements build :=
  mem_requirements_iff.2 (.inr (.inl ⟨step, ofTest, tag, runsIn, rfl⟩))

/-- What a release needs is required. -/
theorem mem_requirements_of_release {build : BuildConfiguration} {link : Link}
    (needed : link ∈ config.releaseLinks build) : link ∈ config.requirements build :=
  mem_requirements_iff.2 (.inr (.inr needed))

/-- What produces a value of the cluster profile is required. -/
theorem mem_requirements_of_profile (build : BuildConfiguration) {name : String} {link : Link}
    (profiled : config.clusterProfile.isSome) (listed : name ∈ Variable.ofProfile)
    (produced : Link.ofVariable? name = some link) : link ∈ config.requirements build := by
  have payload : link ∈ payloadLinks := List.mem_filterMap.2 ⟨name, listed, produced⟩
  have needed : link ∈ config.releaseLinks build := by
    rw [releaseLinks, if_pos profiled]
    exact payload
  exact mem_requirements_of_release needed

/-- An image that a step depends on is required. -/
theorem mem_requirements_of_dependency (build : BuildConfiguration) {image : ImageTag}
    (ofTest : step ∈ config.steps) (asked : image ∈ Batch.images step) :
    .ofImage image ∈ config.requirements build := by
  have declared : image ∈ step.dependencies.map (·.image) := by
    rw [Batch.images] at asked
    split at asked
    · contradiction
    · exact asked
  obtain ⟨dependency, member, rfl⟩ := List.mem_map.1 declared
  have named : .ofImage dependency.image ∈ step.imageLinks :=
    List.mem_append_left _ (List.mem_map.2 ⟨dependency, member, rfl⟩)
  exact mem_requirements_of_step build ofTest named

/-- The image that a step's command line tool comes from is required. -/
theorem mem_requirements_of_tool (build : BuildConfiguration) {image : String}
    (ofTest : step ∈ config.steps) (tool : step.cliImageName? = some image) :
    .ofImage (.ofName image) ∈ config.requirements build := by
  have named : .ofImage (.ofName image) ∈ step.imageLinks := by
    refine List.mem_append_right _ (List.mem_map.2 ⟨image, ?_, rfl⟩)
    rw [tool]
    exact List.mem_singleton_self image
  exact mem_requirements_of_step build ofTest named

/-- An image that a step imports is required under its tag in the pipeline. -/
theorem mem_requirements_of_import (build : BuildConfiguration) {image : ImageReference}
    (ofTest : step ∈ config.steps) (imports : step.importedImage = some image) :
    .internalImage image.pipelineTag ∈ config.requirements build := by
  have runsIn : image.pipelineTag ∈ step.pipelineTags build := by
    refine List.mem_append_right _ ?_
    rw [Step.importedTag?, imports]
    exact List.mem_singleton_self image.pipelineTag
  exact mem_requirements_of_tag build ofTest runsIn

end TestConfiguration

/-! ## What pods take from images -/

namespace Pod

/-- The containers of a pod that run before the others. -/
def preparing (pod : Pod) : List Container := (pod.spec.bind (·.initContainers)).getD []

/-- The containers of a pod that run at the same time. -/
def working (pod : Pod) : List Container := (pod.spec.map (·.containers)).getD []

/-- A pod takes its command line tool, if it gets one, from an image that is required. -/
def ToolsCovered (pod : Pod) (required : List Link) : Prop :=
  ∀ container ∈ pod.preparing, container.name = ContainerName.injectCli →
    ∃ image, container.image = some image ∧ Link.ofImage (.ofName image) ∈ required

end Pod

namespace Workload

/-- The containers of a step's pod that prepare. -/
theorem preparing_pod (workload : Workload) :
    workload.pod.preparing = workload.initContainers := by
  change (if workload.initContainers.isEmpty then none
    else some workload.initContainers).getD [] = workload.initContainers
  split
  · rename_i empty
    exact (List.isEmpty_iff.1 empty).symm
  · rfl

/-- A container that gets the command line tool gets it from the image that the step asks for. -/
theorem tool_of_mem {workload : Workload} {container : Container}
    (member : container ∈ workload.initContainers)
    (named : container.name = ContainerName.injectCli) :
    ∃ image, container.image = some image ∧ workload.step.cliImageName? = some image := by
  rcases List.mem_append.1 member with wrapping | injecting
  · have other : ContainerName.copyWrapper ≠ ContainerName.injectCli := by decide
    split at wrapping
    · obtain rfl := List.mem_singleton.1 wrapping
      exact absurd named other
    · contradiction
  · obtain ⟨image, asked, rfl⟩ := List.mem_map.1 injecting
    exact ⟨image, rfl, Option.mem_toList.1 asked⟩

/-- The pod of a step takes its command line tool from an image that is required. -/
theorem toolsCovered_pod (workload : Workload) (ofTest : workload.step ∈ workload.plan.config.steps)
    (build : BuildConfiguration) :
    workload.pod.ToolsCovered (workload.plan.config.requirements build) := by
  intro container member named
  rw [preparing_pod] at member
  obtain ⟨image, taken, asked⟩ := tool_of_mem member named
  exact ⟨image, taken, TestConfiguration.mem_requirements_of_tool build ofTest asked⟩

/-- The pod of a step with an imported image runs in its tag of the pipeline. -/
theorem image_of_import (workload : Workload) {image : ImageReference}
    (imports : workload.step.importedImage = some image) :
    workload.pod.working.map (·.image) = [some ("pipeline:" ++ image.pipelineTag)] := by
  have name : workload.step.containerImage.name = "pipeline:" ++ image.pipelineTag := by
    rw [Step.containerImage, Step.importedTag?, imports]
    rfl
  change [some workload.step.containerImage.name] = _
  rw [name]

end Workload

/-! ## What runs look up -/

/-- What a phase looks up are images of the test's steps. -/
theorem Conducted.image {plan : Plan} {shared : List EnvVar} {phase : Phase}
    {failedBefore : Prop} [Decidable failedBefore] {history : History Cluster} {state : PhaseState}
    (conducted : Conducted plan shared phase failedBefore history state) {image : ImageTag}
    (member : image ∈ lookedUp history) :
    ∃ step ∈ plan.config.steps, image ∈ Batch.images step := by
  rw [conducted.looked] at member
  obtain ⟨step, included, asked⟩ := List.mem_flatMap.1 member
  have ofPhase : step ∈ phase.steps plan.config := (List.mem_filter.1 included).1
  exact ⟨step, Phase.mem_steps ofPhase, asked⟩

/-- What the phases of a run look up are images of the test's steps. -/
theorem Plan.Stages.image {plan : Plan} {shared : List EnvVar} {progress after : Progress}
    {pre test post : History Cluster} {result : Except RunError Unit}
    (fresh : progress.phase .test = .notStarted)
    (stages : plan.Stages shared progress pre test post after result) {image : ImageTag}
    (member : image ∈ lookedUp (pre ++ test ++ post)) :
    ∃ step ∈ plan.config.steps, image ∈ Batch.images step := by
  obtain ⟨first, second, last⟩ := conducted_stages fresh stages
  rw [lookedUp_append, lookedUp_append] at member
  rcases List.mem_append.1 member with member | member
  · rcases List.mem_append.1 member with member | member
    · exact first.image member
    · rcases second with ⟨_, second⟩ | ⟨_, rfl, _⟩
      · exact second.image member
      · contradiction
  · exact last.image member

/-- Before its phases a run has nothing to do with pods or images. -/
theorem Plan.mem_phases {plan : Plan} {progress after : Progress} {history : History Cluster}
    {result : Except RunError Unit} (ends : (plan.run progress).Ends history (after, result))
    {asked : ClusterCall} {answer : asked.Answer} (member : ⟨asked, answer⟩ ∈ history)
    (later : asked.isProvisioning = false) :
    ∃ shared pre test post, plan.Stages shared progress.restarted pre test post after result ∧
      ⟨asked, answer⟩ ∈ pre ++ test ++ post := by
  have early : ∀ {early provided}, (Provision.all plan).run.Ends early provided →
      ⟨asked, answer⟩ ∉ early := by
    intro early provided prepared listed
    have may : asked.isProvisioning = true := (Provision.prepares_all plan prepared).1 _ listed
    rw [later] at may
    cases may
  rcases Plan.ends_run ends with ⟨error, failed, _, _⟩ |
    ⟨shared, provision, pre, test, post, rfl, provided, stages⟩
  · exact absurd member (early failed)
  · rcases List.mem_append.1 member with member | member
    · exact absurd member (early provided)
    · exact ⟨shared, pre, test, post, stages, member⟩

/-- The pod that is built for a step is a workload of the step. -/
theorem Batch.workload_of_buildPod {plan : Plan} {shared : List EnvVar} {step : Step}
    {history : History Cluster} {pod : Pod}
    (ends : (buildPod plan shared step).Ends history (.ok pod)) :
    ∃ workload : Workload, workload.plan = plan ∧ workload.step = step ∧ pod = workload.pod := by
  obtain ⟨answers, _, _, built⟩ := ends_buildPod ends
  rcases stepResult_cases plan shared step answers with ⟨other, found, same⟩ | ⟨_, _, _, failed⟩
  · rw [same] at built
    obtain rfl := Except.ok.inj built
    exact workload_of_stepPod? found
  · rw [failed] at built
    cases built

/-- Whatever a run consumes of images and of values that something else produces is provided by what
its test requires: the images that it looks up, the images that its pods take the command line tool
from, the tags that its pods with an imported image run in, and the values that come with a cluster
profile. -/
theorem requirements_cover_run {σ : Type} (plan : Plan) (progress : Progress)
    (handler : Handler Cluster σ) (state : σ) :
    let required := plan.config.requirements plan.build
    let history := (plan.run progress).trace handler state
    (∀ ns image answer, ⟨ClusterCall.pullSpec ns image, answer⟩ ∈ history →
        Link.ofImage image ∈ required) ∧
      (∀ pod answer, ⟨ClusterCall.submitPod pod, answer⟩ ∈ history → pod.ToolsCovered required) ∧
      (∀ step ∈ plan.config.steps, ∀ shared pod,
        ((Batch.buildPod plan shared step).run handler state).1 = .ok pod →
          pod.ToolsCovered required ∧ ∀ image, step.importedImage = some image →
            pod.working.map (·.image) = [some ("pipeline:" ++ image.pipelineTag)]) ∧
      (∀ step ∈ plan.config.steps, ∀ image, step.importedImage = some image →
        Link.internalImage image.pipelineTag ∈ required) ∧
      (plan.config.clusterProfile.isSome → ∀ name ∈ Variable.ofProfile, ∀ link,
        Link.ofVariable? name = some link → link ∈ required) := by
  intro required history
  have ends := ends_run handler (plan.run progress) state
  refine ⟨?_, ?_, ?_, ?_, ?_⟩
  · intro ns image answer member
    obtain ⟨_, pre, test, post, stages, listed⟩ := Plan.mem_phases ends member rfl
    have lookup : image ∈ lookedUp (pre ++ test ++ post) :=
      List.mem_filterMap.2 ⟨_, listed, rfl⟩
    obtain ⟨step, ofTest, asked⟩ := stages.image rfl lookup
    exact TestConfiguration.mem_requirements_of_dependency plan.build ofTest asked
  · intro pod answer member
    obtain ⟨_, pre, test, post, stages, listed⟩ := Plan.mem_phases ends member rfl
    obtain ⟨workload, rfl, ofTest, rfl⟩ := stages.workload rfl listed
    exact workload.toolsCovered_pod ofTest workload.plan.build
  · intro step ofTest shared pod built
    have building := ends_run handler (Batch.buildPod plan shared step) state
    rw [built] at building
    obtain ⟨workload, rfl, rfl, rfl⟩ := Batch.workload_of_buildPod building
    exact ⟨workload.toolsCovered_pod ofTest workload.plan.build,
      fun image imports => workload.image_of_import imports⟩
  · intro step ofTest image imports
    exact TestConfiguration.mem_requirements_of_import plan.build ofTest imports
  · intro profiled name listed link produced
    exact TestConfiguration.mem_requirements_of_profile plan.build profiled listed produced

end StagedTest
