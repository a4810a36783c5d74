import StagedTest.Value.Codec

/-!
# Build configurations

What a test needs to know of the build that it belongs to: where the code comes from, and which
images the pipeline builds.
-/
namespace StagedTest

/-- Where the code under test comes from. -/
structure SourceMetadata where
  /-- The organization. -/
  org : String
  /-- The repository. -/
  repo : String
  /-- The branch. -/
  branch : String
  /-- The variant of the configuration; empty where there is only one. -/
  variant : String
deriving DecidableEq, Inhabited, Repr

/-- The written form of the code's place. -/
def SourceMetadata.codec : Codec SourceMetadata :=
  Fields.codec
    (SourceMetadata.mk <$> Fields.required "org" .text org
      <*> Fields.required "repo" .text repo
      <*> Fields.required "branch" .text branch
      <*> Fields.textUnlessEmpty "variant" variant)
    "Metadata"

/-- The build that a test belongs to. -/
structure BuildConfiguration where
  /-- Where the code comes from. -/
  metadata : SourceMetadata
  /-- The images that the pipeline builds besides its own. -/
  images : StringSet

namespace BuildConfiguration

instance : Inhabited BuildConfiguration := ⟨⟨default, ∅⟩⟩

/-- The build of nothing. -/
def empty : BuildConfiguration := ⟨⟨"", "", "", ""⟩, ∅⟩

/-- The tags that every pipeline has. -/
def builtinTags : List String := ["root", "src", "bin", "test-bin", "rpms"]

/-- Whether a name is a tag of the pipeline. -/
def isPipelineImage (build : BuildConfiguration) (name : String) : Bool :=
  builtinTags.contains name || build.images.contains name

/-- The written form. -/
def codec : Codec BuildConfiguration :=
  Fields.codec
    (BuildConfiguration.mk <$> Fields.required "metadata" SourceMetadata.codec metadata
      <*> Fields.defaulted "images" .textSet ∅ images)
    "BuildConfiguration"

end BuildConfiguration

end StagedTest
