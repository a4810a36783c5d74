import StagedTest.BuildConfiguration
import StagedTest.Link
import StagedTest.TestConfiguration

/-!
# Requirements

What has to be there before a test can run, found without running anything: the images that its
steps name, the pipeline tags that they run in, and a release. A test with a cluster profile
needs the payload of the latest release; another one needs the images of that release as soon as
one of its steps does not run in a pipeline image.
-/
namespace StagedTest

namespace Step

/-- The image that a step's command line tool comes from. -/
def cliImageName? (step : Step) : Option String :=
  step.cli.map fun release => ImageTag.name ⟨Naming.releaseStream release, Registry.cliTag⟩

/-- The links of the images that a step names: its dependencies, and the image that its command
line tool comes from. -/
def imageLinks (step : Step) : List Link :=
  step.dependencies.map (fun dependency => .ofImage dependency.image) ++
    step.cliImageName?.toList.map fun name => .ofImage (.ofName name)

/-- The pipeline tags that a step needs to run in. -/
def pipelineTags (build : BuildConfiguration) (step : Step) : List String :=
  (if build.isPipelineImage step.image then [step.image] else []) ++ step.importedTag?.toList

end Step

namespace TestConfiguration

/-- The links that the payload of the latest release comes with. -/
def payloadLinks : List Link := Variable.ofProfile.filterMap Link.ofVariable?

/-- What a test needs of a release. -/
def releaseLinks (config : TestConfiguration) (build : BuildConfiguration) : List Link :=
  if config.clusterProfile.isSome then payloadLinks
  else if config.steps.all fun step => build.isPipelineImage step.image then []
  else [.releaseImages Naming.latestRelease]

/-- The pipeline tags that the steps need to run in, each once. -/
def pipelineTags (config : TestConfiguration) (build : BuildConfiguration) : StringSet :=
  .ofList (config.steps.flatMap (Step.pipelineTags build))

/-- What has to be there before a test can run. -/
def requirements (config : TestConfiguration) (build : BuildConfiguration) : List Link :=
  config.steps.flatMap Step.imageLinks ++
    (config.pipelineTags build).members.map .internalImage ++ config.releaseLinks build

end TestConfiguration

end StagedTest
