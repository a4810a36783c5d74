import StagedTest.ImageTag
import StagedTest.Naming
import StagedTest.Value.Codec

/-!
# Steps

A step is one pod's worth of work: an image, the commands that run in it, and what it needs
besides. Each part has its codec beside it.
-/
namespace StagedTest

/-- An image of another namespace, imported into the pipeline before the step runs. -/
structure ImageReference where
  /-- The namespace that the image comes from. -/
  ns : String
  /-- The stream in that namespace. -/
  name : String
  /-- The tag in that stream. -/
  tag : String
deriving DecidableEq, Inhabited, Repr

namespace ImageReference

/-- The tag that the image is imported as. -/
def pipelineTag (image : ImageReference) : String :=
  image.ns ++ "-" ++ image.name ++ "-" ++ image.tag

/-- The written form. -/
def codec : Codec ImageReference :=
  Fields.codec
    (ImageReference.mk <$> Fields.required "namespace" .text ns
      <*> Fields.required "name" .text name
      <*> Fields.required "tag" .text tag)
    "ImageStreamTagReference"

end ImageReference

/-- What a step asks of the machine that it runs on, by resource. -/
structure ResourceNeeds where
  /-- What is set aside for the step. -/
  requests : StringMap String
  /-- What the step may use at most. -/
  limits : StringMap String

namespace ResourceNeeds

instance : Inhabited ResourceNeeds := ⟨⟨∅, ∅⟩⟩

/-- No needs at all. -/
def none : ResourceNeeds := ⟨∅, ∅⟩

/-- The written form. -/
def codec : Codec ResourceNeeds :=
  Fields.codec
    (ResourceNeeds.mk <$> Fields.defaulted "requests" (.map .text) ∅ requests
      <*> Fields.defaulted "limits" (.map .text) ∅ limits)
    "ResourceRequirements"

end ResourceNeeds

/-- A parameter that a step takes as an environment variable. -/
structure StepParameter where
  /-- The variable. -/
  name : String
  /-- The value where nothing else gives one. -/
  default : Option String
  /-- The value that the step insists on. -/
  value : Option String
deriving DecidableEq, Inhabited, Repr

namespace StepParameter

/-- The written form. -/
def codec : Codec StepParameter :=
  Fields.codec
    (StepParameter.mk <$> Fields.required "name" .text name
      <*> Fields.optional "default" .text default
      <*> Fields.optional "value" .text value)
    "StepParameter"

end StepParameter

/-- A secret of another namespace that a step needs. -/
structure Credential where
  /-- The namespace of the secret. -/
  ns : String
  /-- The secret. -/
  name : String
  /-- Where the step finds it. -/
  mountPath : String
deriving DecidableEq, Inhabited, Repr

namespace Credential

/-- The name of the secret's copy in the namespace of the test. -/
def mirrorName (credential : Credential) : String :=
  Naming.mirroredCredential credential.ns credential.name

/-- The secret as people write it. -/
def source (credential : Credential) : String := credential.ns ++ "/" ++ credential.name

/-- The written form. -/
def codec : Codec Credential :=
  Fields.codec
    (Credential.mk <$> Fields.required "namespace" .text ns
      <*> Fields.required "name" .text name
      <*> Fields.required "mount_path" .text mountPath)
    "CredentialReference"

end Credential

/-- An image whose pull spec a step takes as an environment variable. -/
structure Dependency where
  /-- The image. -/
  name : String
  /-- The variable. -/
  variableName : String
deriving DecidableEq, Inhabited, Repr

namespace Dependency

/-- The tag that the dependency stands for. -/
def image (dependency : Dependency) : ImageTag := .ofName dependency.name

/-- The written form. -/
def codec : Codec Dependency :=
  Fields.codec
    (Dependency.mk <$> Fields.required "name" .text name
      <*> Fields.required "env" .text variableName)
    "StepDependency"

end Dependency

/-- A step. -/
structure Step where
  /-- The name of the step. -/
  name : String
  /-- The image that the step runs in. -/
  image : String
  /-- An imported image, which counts before `image`. -/
  importedImage : Option ImageReference
  /-- The commands. -/
  commands : String
  /-- What the step asks of the machine. -/
  resources : ResourceNeeds
  /-- The parameters of the step. -/
  parameters : List StepParameter
  /-- The secrets that the step needs. -/
  credentials : List Credential
  /-- The images that the step needs to know of. -/
  dependencies : List Dependency
  /-- The release whose command line tool the step gets. -/
  cli : Option String
  /-- After how many seconds the step's pod is stopped. -/
  activeDeadlineSeconds : Option Int64
  /-- How many seconds a stopped step has for its cleanup. -/
  terminationGracePeriodSeconds : Option Int64
  /-- Whether the step only reads the shared directory. -/
  readonlySharedDirectory : Bool
  /-- Whether the step may be left out when nothing has failed. -/
  optionalOnSuccess : Option Bool
  /-- Where the step leaves its artifacts. -/
  artifactDirectory : Option String
deriving Inhabited

namespace Step

/-- The pipeline tag that the imported image has. -/
def importedTag? (step : Step) : Option String := step.importedImage.map (·.pipelineTag)

/-- The image that the step's container runs. -/
def containerImage (step : Step) : ImageTag :=
  match step.importedTag? with
  | some tag => .pipeline tag
  | none => .ofName step.image

/-- Whether the step may be left out when nothing has failed. -/
def isOptional (step : Step) : Bool := step.optionalOnSuccess.getD false

/-- The written form. -/
def codec : Codec Step :=
  Fields.codec
    (Step.mk <$> Fields.required "as" .text name
      <*> Fields.defaulted "from" .text "" image
      <*> Fields.optional "from_image" ImageReference.codec importedImage
      <*> Fields.defaulted "commands" .text "" commands
      <*> Fields.defaulted "resources" ResourceNeeds.codec .none resources
      <*> Fields.defaulted "env" StepParameter.codec.list [] parameters
      <*> Fields.defaulted "credentials" Credential.codec.list [] credentials
      <*> Fields.defaulted "dependencies" Dependency.codec.list [] dependencies
      <*> Fields.optional "cli" .text cli
      <*> Fields.optional "active_deadline_seconds" .int64 activeDeadlineSeconds
      <*> Fields.optional "termination_grace_period_seconds" .int64 terminationGracePeriodSeconds
      <*> Fields.defaulted "readonly_shared_dir" .bool false readonlySharedDirectory
      <*> Fields.optional "optional_on_success" .bool optionalOnSuccess
      <*> Fields.optional "artifact_dir" .text artifactDirectory)
    "LiteralStep"

end Step

end StagedTest
