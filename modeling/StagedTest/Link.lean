import StagedTest.Conventions
import StagedTest.ImageTag
import StagedTest.Naming
import StagedTest.Text.Lowercase
import StagedTest.Value.Codec

/-!
# Links

A link is something that has to be there before a test can run: an image, the images of a
release, or the readiness of all images. A scheduler orders the test after what provides its
links. Links are ordered first by what they are and then by their names.
-/
namespace StagedTest

/-- Something that has to be there before a test can run. -/
inductive Link
  /-- A tag that the pipeline builds. -/
  | internalImage (tag : String)
  /-- A tag in a stream that the pipeline does not build. -/
  | externalImage (stream tag : String)
  /-- The images of a release. -/
  | releaseImages (release : String)
  /-- The payload of a release. -/
  | releasePayloadImage (release : String)
  /-- All images of the build. -/
  | imagesReady
deriving DecidableEq, Inhabited, Repr

namespace Link

/-- What provides an image. -/
def ofImage (image : ImageTag) : Link :=
  if image.stream = ImageTag.pipelineStream then .internalImage image.tag
  else if image.stream = ImageTag.releaseStream then .releasePayloadImage image.tag
  else
    match Naming.releaseName? image.stream with
    | some release => .releaseImages release
    | none => .externalImage image.stream image.tag

/-- The pipeline provides the images of its own stream and no others. -/
theorem ofImage_eq_internalImage_iff {image : ImageTag} {tag : String} :
    ofImage image = .internalImage tag ↔ image = .pipeline tag := by
  obtain ⟨stream, name⟩ := image
  rw [ofImage, ImageTag.pipeline, ImageTag.mk.injEq]
  by_cases same : stream = ImageTag.pipelineStream
  · simp [same]
  · rw [if_neg same]
    split
    · simp [same]
    · split <;> simp [same]

/-- The stream of a release is neither the pipeline's nor that of the payloads. -/
theorem releaseStream_ne (release : String) :
    Naming.releaseStream release ≠ ImageTag.pipelineStream ∧
      Naming.releaseStream release ≠ ImageTag.releaseStream := by
  have first := Naming.head?_releaseStream release
  constructor <;>
  · intro same
    rw [same] at first
    exact absurd first (by decide)

/-- The images of a release that has a name are provided with that release. -/
theorem ofImage_releaseStream {release : String} (named : release ≠ "") (tag : String) :
    ofImage ⟨Naming.releaseStream release, tag⟩ = .releaseImages release := by
  obtain ⟨notPipeline, notPayload⟩ := releaseStream_ne release
  rw [ofImage, if_neg notPipeline, if_neg notPayload, Naming.releaseName?_releaseStream named]

/-- What provides the value of a variable; a leased value is provided by nothing that runs. -/
def ofVariable? (variableName : String) : Option Link :=
  if variableName = Variable.imageFormat then some .imagesReady
  else
    match Text.after? Variable.releaseImageLead variableName with
    | none => none
    | some release =>
      if release = "" then none else some (.releasePayloadImage (Text.lowercase release))

/-- What a link is called. -/
def text : Link → String
  | .internalImage tag => (ImageTag.pipeline tag).name
  | .externalImage stream tag => ImageTag.name ⟨stream, tag⟩
  | .releaseImages release => "release images '" ++ release ++ "'"
  | .releasePayloadImage release => "release payload '" ++ release ++ "'"
  | .imagesReady => "images ready"

/-- The place of a link among other kinds of link. -/
def rank : Link → Nat
  | .internalImage _ => 0
  | .externalImage _ _ => 1
  | .releaseImages _ => 2
  | .releasePayloadImage _ => 3
  | .imagesReady => 4

/-- The names in a link, in order. -/
def names : Link → List String
  | .internalImage tag => [tag]
  | .externalImage stream tag => [stream, tag]
  | .releaseImages release => [release]
  | .releasePayloadImage release => [release]
  | .imagesReady => []

/-- Whether a link comes before another one. -/
def before (a b : Link) : Bool :=
  a.rank < b.rank || (a.rank == b.rank && decide (a.names < b.names))

/-- Puts a link at its place in order, unless it is there. -/
def insertOrdered (link : Link) : List Link → List Link
  | [] => [link]
  | head :: rest =>
    if link.before head then link :: head :: rest
    else if link = head then head :: rest
    else head :: insertOrdered link rest

/-- The links of a list in order, each once. -/
def ordered (links : List Link) : List Link :=
  links.foldl (fun done link => insertOrdered link done) []

/-- What a link can be. -/
inductive Kind
  /-- A tag that the pipeline builds. -/
  | internalImage
  /-- A tag in a stream that the pipeline does not build. -/
  | externalImage
  /-- The images of a release. -/
  | releaseImages
  /-- The payload of a release. -/
  | releasePayloadImage
  /-- All images of the build. -/
  | imagesReady
deriving DecidableEq, Repr

namespace Kind

/-- The word for a kind of link. -/
def word : Kind → String
  | .internalImage => "internal_image"
  | .externalImage => "external_image"
  | .releaseImages => "release_images"
  | .releasePayloadImage => "release_payload_image"
  | .imagesReady => "images_ready"

/-- All kinds of link. -/
def all : List Kind :=
  [.internalImage, .externalImage, .releaseImages, .releasePayloadImage, .imagesReady]

/-- Kinds of link are written as their words. -/
def codec : Codec Kind where
  print kind := .text kind.word
  decode
    | .text word | .plain word =>
      match all.find? (·.word == word) with
      | some kind => .ok kind
      | none => .error (.unknownVariant word (all.map (·.word)))
    | other => .error (.unexpected other "variant identifier")

end Kind

/-- What a link is. -/
def kind : Link → Kind
  | .internalImage _ => .internalImage
  | .externalImage _ _ => .externalImage
  | .releaseImages _ => .releaseImages
  | .releasePayloadImage _ => .releasePayloadImage
  | .imagesReady => .imagesReady

/-- The field that tells what a link is. -/
def typeField : Fields Link Kind := .required "type" Kind.codec kind

/-- The field of a tag in the pipeline. -/
def tagField : Fields String String := .required "tag" .text id

/-- The field of a release. -/
def releaseField : Fields String String := .required "release" .text id

/-- The fields of an image. -/
def imageFields : Fields ImageTag ImageTag :=
  ImageTag.mk <$> Fields.required "stream" .text ImageTag.stream
    <*> Fields.required "tag" .text ImageTag.tag

/-- The fields of a link that names nothing. -/
def nothing : Fields Unit Unit := pure ()

/-- The fields of a link besides the one that tells what it is. -/
def fields : Link → List (String × Value)
  | .internalImage tag => tagField.print tag
  | .externalImage stream tag => imageFields.print ⟨stream, tag⟩
  | .releaseImages release | .releasePayloadImage release => releaseField.print release
  | .imagesReady => []

/-- Reads a group of fields that are written as a record, or as the list of what they hold. -/
def decodeGroup {α : Type} (variant : String) (group : Fields α α) :
    List (String × Value) ⊕ List Value → Except DecodeError α
  | .inl fields => group.decodeRecord fields
  | .inr items =>
    group.decodeInOrder
      (s!"struct variant StepLink::{variant} with " ++ Fields.elements group.names.length)
      (Fields.elements group.names.length ++ " in sequence") items

/-- Reads what a link of a known kind names. -/
def decodeAs (rest : List (String × Value) ⊕ List Value) : Kind → Except DecodeError Link
  | .internalImage => (decodeGroup "InternalImage" tagField rest).map .internalImage
  | .externalImage =>
    (decodeGroup "ExternalImage" imageFields rest).map fun image =>
      .externalImage image.stream image.tag
  | .releaseImages => (decodeGroup "ReleaseImages" releaseField rest).map .releaseImages
  | .releasePayloadImage =>
    (decodeGroup "ReleasePayloadImage" releaseField rest).map .releasePayloadImage
  | .imagesReady => (decodeGroup "ImagesReady" nothing rest).map fun _ => .imagesReady

/-- Reads a link, which is written as a record whose type is among the fields, or as a list with the
type in front. -/
def decode : Value → Except DecodeError Link
  | .record fields => do decodeAs (.inl fields) (← typeField.decodeRecord fields)
  | .sequence (type :: items) => do decodeAs (.inr items) (← Kind.codec.decode type)
  | .sequence [] => .error (.missingField "type")
  | other => .error (.unexpected other "internally tagged enum StepLink")

/-- Links are written as records whose type tells what they are. -/
def codec : Codec Link where
  print link := .record (typeField.print link ++ link.fields)
  decode := decode

end Link

end StagedTest
