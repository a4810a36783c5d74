import StagedTest.Proofs.ByteOrder
import StagedTest.Proofs.Coverage

/-!
# What exactly a test requires

The requirements of a test are told link by link and in their order. They are the same links in
whatever order and phases the steps stand, and a further step takes none of them away. A step may
name the pipeline's image that it runs in so that the requirements do not see it. The main
statements say which names these are, and what the list of requirements is.
-/
namespace StagedTest

/-! ## The tags of the pipeline that steps ask for -/

namespace Step

/-- A step asks for a tag of the pipeline: it imports an image under that tag, its image is the tag
and the pipeline builds it, or it depends on the tag. -/
def AsksFor (build : BuildConfiguration) (step : Step) (tag : String) : Prop :=
  step.importedTag? = some tag ∨ (step.image = tag ∧ build.isPipelineImage tag = true) ∨
    ∃ dependency ∈ step.dependencies, dependency.image = .pipeline tag

variable {step : Step}

/-- The tags that a step runs in are that of its imported image, and its image where the pipeline
builds it. -/
theorem mem_pipelineTags_iff {build : BuildConfiguration} {tag : String} :
    tag ∈ step.pipelineTags build ↔
      (step.image = tag ∧ build.isPipelineImage tag = true) ∨ step.importedTag? = some tag := by
  rw [pipelineTags, List.mem_append, Option.mem_toList]
  refine or_congr_left ?_
  split
  · rename_i built
    rw [List.mem_singleton]
    constructor
    · rintro rfl
      exact ⟨rfl, built⟩
    · rintro ⟨rfl, _⟩
      rfl
  · rename_i unbuilt
    constructor
    · intro member
      contradiction
    · rintro ⟨rfl, built⟩
      exact absurd built unbuilt

/-- The name of the image that the command line tool of a release comes from. -/
theorem toolImage_eq (release : String) :
    ImageTag.name ⟨Naming.releaseStream release, Registry.cliTag⟩ =
      Naming.releaseStream release ++ ":cli" :=
  String.append_assoc ..

/-- The command line tool of a release comes with the images of that release, if the release has a
name without a mark. -/
theorem ofImage_tool {release : String} (named : release ≠ "") (unmarked : ':' ∉ release.toList) :
    Link.ofImage (.ofName (Naming.releaseStream release ++ ":cli")) = .releaseImages release := by
  have image := ImageTag.ofName_name ⟨Naming.releaseStream release, Registry.cliTag⟩
    (Naming.releaseStream_unmarked unmarked)
  rw [toolImage_eq] at image
  rw [image, Link.ofImage_releaseStream named]

/-- A command line tool comes from no image of the pipeline. -/
theorem ofName_tool_ne {image : String} (tool : step.cliImageName? = some image) (tag : String) :
    ImageTag.ofName image ≠ .pipeline tag := by
  obtain ⟨release, _, rfl⟩ := Option.map_eq_some_iff.1 tool
  have first : (ImageTag.name ⟨Naming.releaseStream release, Registry.cliTag⟩).toList.head? =
      some 's' := by
    simp [ImageTag.name, Naming.head?_releaseStream]
  intro same
  -- With the pipeline's stream the name would begin otherwise, and without a stream it has no mark.
  rcases ImageTag.ofName_eq_pipeline_iff.1 same with named | ⟨rfl, unmarked⟩
  · rw [named] at first
    simp [ImageTag.pipeline, ImageTag.pipelineStream, ImageTag.name] at first
  · exact unmarked (by simp [ImageTag.name])

/-- The links of the images that a step names, dependencies first. -/
theorem imageLinks_eq (step : Step) : step.imageLinks =
    step.dependencies.map (fun dependency => .ofImage (.ofName dependency.name)) ++
      step.cli.toList.map fun release =>
        .ofImage (.ofName (Naming.releaseStream release ++ ":cli")) := by
  rw [imageLinks, cliImageName?, funext toolImage_eq]
  cases step.cli <;> simp [Dependency.image]

/-- Of the images that a step names, the pipeline provides those that it depends on. -/
theorem internalImage_mem_imageLinks_iff {tag : String} :
    .internalImage tag ∈ step.imageLinks ↔
      ∃ dependency ∈ step.dependencies, dependency.image = .pipeline tag := by
  have tool : .internalImage tag ∉
      step.cliImageName?.toList.map fun name => Link.ofImage (.ofName name) := by
    intro member
    obtain ⟨name, asked, same⟩ := List.mem_map.1 member
    exact ofName_tool_ne (Option.mem_toList.1 asked) tag (Link.ofImage_eq_internalImage_iff.1 same)
  rw [imageLinks, List.mem_append, or_iff_left tool, List.mem_map]
  exact exists_congr fun dependency => and_congr_right fun _ => Link.ofImage_eq_internalImage_iff

/-- The image that a step's container runs is known by its name. -/
theorem containerImage_name_iff {tag : String} :
    step.containerImage.name = "pipeline:" ++ tag ↔ step.containerImage = .pipeline tag := by
  -- The first mark of either name is the one before the tag.
  have clean : ':' ∉ step.containerImage.stream.toList := by
    rw [containerImage]
    split
    · exact ImageTag.pipelineStream_unmarked
    · exact ImageTag.stream_ofName step.image
  constructor
  · intro named
    calc
      step.containerImage = .ofName step.containerImage.name := (ImageTag.ofName_name _ clean).symm
      _ = .ofName (ImageTag.pipeline tag).name := congrArg _ named
      _ = .pipeline tag := ImageTag.ofName_name _ ImageTag.pipelineStream_unmarked
  · intro same
    rw [same]
    rfl

/-- A step runs in a tag of the pipeline if it imports an image under that tag, or else if its image
is the tag, with the pipeline's stream before it or, where the tag has no mark, without. -/
theorem containerImage_eq_pipeline_iff {tag : String} :
    step.containerImage = .pipeline tag ↔
      step.importedTag? = some tag ∨ step.importedTag? = none ∧
        (step.image = "pipeline:" ++ tag ∨ step.image = tag ∧ ':' ∉ tag.toList) := by
  rw [containerImage]
  cases step.importedTag? with
  | some other => simp [ImageTag.pipeline]
  | none =>
    have named : (ImageTag.pipeline tag).name = "pipeline:" ++ tag := rfl
    simp [ImageTag.ofName_eq_pipeline_iff, named]

end Step

/-! ## Links that are required -/

namespace TestConfiguration

variable {config : TestConfiguration} {build : BuildConfiguration}

/-- The payload of the latest release comes with the readiness of all images. -/
theorem payloadLinks_eq : payloadLinks = [.releasePayloadImage "latest", .imagesReady] := by
  decide

/-- What is needed of a release: its payload for a cluster profile, and otherwise its images as soon
as a step names an image that the pipeline does not build. -/
theorem releaseLinks_eq : config.releaseLinks build =
    if config.clusterProfile.isSome then [.releasePayloadImage "latest", .imagesReady]
    else if ∃ step ∈ config.steps, build.isPipelineImage step.image = false then
      [.releaseImages "latest"]
    else [] := by
  rw [releaseLinks, payloadLinks_eq]
  split
  · rfl
  · by_cases outside : ∃ step ∈ config.steps, build.isPipelineImage step.image = false
    · rw [if_pos outside, if_neg (by simpa using outside)]
      rfl
    · rw [if_neg outside, if_pos (by simpa using outside)]

/-- A tag of the pipeline is required exactly if a step asks for it. -/
theorem internalImage_mem_requirements_iff {tag : String} :
    .internalImage tag ∈ config.requirements build ↔
      ∃ step ∈ config.steps, step.AsksFor build tag := by
  have noRelease : .internalImage tag ∉ config.releaseLinks build := by
    rw [releaseLinks_eq]
    split
    · simp
    · split <;> simp
  rw [mem_requirements_iff, or_iff_left noRelease]
  constructor
  · rintro (⟨step, ofTest, named⟩ | ⟨step, ofTest, other, runsIn, same⟩)
    · exact ⟨step, ofTest, .inr (.inr (Step.internalImage_mem_imageLinks_iff.1 named))⟩
    · cases same
      refine ⟨step, ofTest, ?_⟩
      rcases Step.mem_pipelineTags_iff.1 runsIn with built | imported
      · exact .inr (.inl built)
      · exact .inl imported
  · rintro ⟨step, ofTest, imported | built | depends⟩
    · exact .inr ⟨step, ofTest, tag, Step.mem_pipelineTags_iff.2 (.inr imported), rfl⟩
    · exact .inr ⟨step, ofTest, tag, Step.mem_pipelineTags_iff.2 (.inl built), rfl⟩
    · exact .inl ⟨step, ofTest, Step.internalImage_mem_imageLinks_iff.2 depends⟩

/-- With more steps and the same need of a cluster no less is required. -/
theorem requirements_subset {other : TestConfiguration} (fewer : config.steps ⊆ other.steps)
    (same : other.clusterProfile.isSome = config.clusterProfile.isSome) :
    config.requirements build ⊆ other.requirements build := by
  have release : config.releaseLinks build ⊆ other.releaseLinks build := by
    rw [releaseLinks_eq, releaseLinks_eq, same]
    split
    · exact List.Subset.refl _
    · split
      · rename_i outside
        obtain ⟨step, ofTest, unbuilt⟩ := outside
        rw [if_pos ⟨step, fewer ofTest, unbuilt⟩]
        exact List.Subset.refl _
      · exact List.nil_subset _
  intro link member
  rcases mem_requirements_iff.1 member with
    ⟨step, ofTest, named⟩ | ⟨step, ofTest, tag, runsIn, rfl⟩ | needed
  · exact mem_requirements_of_step build (fewer ofTest) named
  · exact mem_requirements_of_tag build (fewer ofTest) runsIn
  · exact mem_requirements_of_release (release needed)

/-- What is required comes in this order: for each step the images that it depends on and the one of
its command line tool, then the tags of the pipeline that steps run in, in the order of their bytes,
and last what is needed of a release. As a set it does not depend on the order of the steps or on
their phases, and a further step adds to it. -/
theorem requirements_listed (config : TestConfiguration) (build : BuildConfiguration) :
    let steps := config.pre ++ config.test ++ config.post
    (∃ tags : List String,
      config.requirements build =
        (steps.flatMap fun step =>
          step.dependencies.map (fun dependency => Link.ofImage (.ofName dependency.name)) ++
            step.cli.toList.map fun release =>
              Link.ofImage (.ofName (Naming.releaseStream release ++ ":cli"))) ++
          tags.map .internalImage ++
          (if config.clusterProfile.isSome then [.releasePayloadImage "latest", .imagesReady]
          else if ∃ step ∈ steps, build.isPipelineImage step.image = false then
            [.releaseImages "latest"]
          else []) ∧
      (tags.Pairwise fun tag later => Text.bytes tag < Text.bytes later) ∧
      ∀ tag, tag ∈ tags ↔ ∃ step ∈ steps,
        (step.image = tag ∧ build.isPipelineImage tag = true) ∨
          ∃ image, step.importedImage = some image ∧
            image.ns ++ "-" ++ image.name ++ "-" ++ image.tag = tag) ∧
    (∀ release, release ≠ "" → ':' ∉ release.toList →
      Link.ofImage (.ofName (Naming.releaseStream release ++ ":cli")) = .releaseImages release) ∧
    (∀ other : TestConfiguration, (other.pre ++ other.test ++ other.post).Perm steps →
      other.clusterProfile.isSome = config.clusterProfile.isSome →
        ∀ link, link ∈ other.requirements build ↔ link ∈ config.requirements build) ∧
    (∀ (other : TestConfiguration) (step : Step),
      (other.pre ++ other.test ++ other.post).Perm (step :: steps) →
        other.clusterProfile.isSome = config.clusterProfile.isSome →
          ∀ link ∈ config.requirements build, link ∈ other.requirements build) := by
  intro steps
  refine ⟨⟨(config.pipelineTags build).members, ?_, ?_, ?_⟩, fun _ => Step.ofImage_tool, ?_, ?_⟩
  · rw [requirements, releaseLinks_eq, funext Step.imageLinks_eq]
    rfl
  · exact (config.pipelineTags build).sorted.imp Text.bytes_lt
  · intro tag
    rw [pipelineTags, StringSet.mem_ofList, List.mem_flatMap]
    refine exists_congr fun step => and_congr_right fun _ => ?_
    rw [Step.mem_pipelineTags_iff, Step.importedTag?, Option.map_eq_some_iff]
    rfl
  · intro other moved same link
    exact ⟨fun member => requirements_subset moved.subset same.symm member,
      fun member => requirements_subset moved.symm.subset same member⟩
  · intro other step added same
    have among : steps ⊆ other.steps := fun _ member =>
      added.symm.subset (List.mem_cons_of_mem _ member)
    exact requirements_subset among same

end TestConfiguration

/-! ## The pipeline's image that a step runs in -/

namespace Workload

/-- Where the container of a step's pod runs a tag of the pipeline, the step imports an image under
that tag or names the tag, with the pipeline's stream or without. The tag is required exactly if
some step of the test asks for it. This step does if it imports the tag, and if it names the tag
without the stream and the pipeline builds it. -/
theorem pipelineTag_required (workload : Workload)
    (ofTest : workload.step ∈ workload.plan.config.steps) {tag : String}
    (runs : workload.pod.working.map (·.image) = [some ("pipeline:" ++ tag)]) :
    let build := workload.plan.build
    let required := .internalImage tag ∈ workload.plan.config.requirements build
    let step := workload.step
    (step.importedTag? = some tag ∨ step.importedTag? = none ∧
      (step.image = "pipeline:" ++ tag ∨ step.image = tag ∧ ':' ∉ tag.toList)) ∧
    (required ↔ ∃ other ∈ workload.plan.config.steps, other.AsksFor build tag) ∧
    (step.importedTag? = some tag ∨ step.image = tag ∧ build.isPipelineImage tag = true →
      required) := by
  intro build required step
  have named : step.containerImage.name = "pipeline:" ++ tag :=
    Option.some.inj (List.cons.inj runs).1
  have asked : required ↔ ∃ other ∈ workload.plan.config.steps, other.AsksFor build tag :=
    TestConfiguration.internalImage_mem_requirements_iff
  refine ⟨Step.containerImage_eq_pipeline_iff.1 (Step.containerImage_name_iff.1 named), asked, ?_⟩
  rintro (imported | built)
  · exact asked.2 ⟨step, ofTest, .inl imported⟩
  · exact asked.2 ⟨step, ofTest, .inr (.inl built)⟩

/-- The only step of a test, which runs in some image and asks for nothing else. -/
def single (image : String) : Workload :=
  let step := { (default : Step) with name := "unit", image }
  let config := { (default : TestConfiguration) with name := "e2e", test := [step] }
  { plan := { Plan.small with config }
    step
    shared := []
    parameters := []
    dependencies := [] }

/-- A step that names an image of the pipeline without its stream has it required. -/
theorem pipelineTag_required_single :
    (single "src").pod.working.map (·.image) = [some "pipeline:src"] ∧
      .internalImage "src" ∈ (single "src").plan.config.requirements (single "src").plan.build :=
  ⟨rfl, (pipelineTag_required (single "src") List.mem_cons_self rfl).2.2 (.inr ⟨rfl, rfl⟩)⟩

/-- A step that names the same image with its stream runs in it and does not have it required. -/
theorem pipelineTag_not_required_marked :
    (single "pipeline:src").step ∈ (single "pipeline:src").plan.config.steps ∧
      (single "pipeline:src").pod.working.map (·.image) = [some "pipeline:src"] ∧
      .internalImage "src" ∉ (single "pipeline:src").plan.config.requirements
        (single "pipeline:src").plan.build :=
  ⟨List.mem_cons_self, by decide, by decide⟩

end Workload

end StagedTest
