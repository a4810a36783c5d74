import StagedTest.Text.Affix

/-!
# Image tags

An image is named by a tag in a stream, written `stream:tag`. A name without a mark means a tag
of the pipeline's own stream. The main statement says that a name leads back to its image wherever
no mark stands in the stream.
-/
namespace StagedTest

/-- A tag in a stream of images. -/
structure ImageTag where
  /-- The stream. -/
  stream : String
  /-- The tag in the stream. -/
  tag : String
deriving DecidableEq, Repr

namespace ImageTag

/-- The stream of the images that the pipeline builds. -/
def pipelineStream : String := "pipeline"

/-- The stream of release payloads. -/
def releaseStream : String := "release"

/-- A tag of the pipeline's stream. -/
def pipeline (tag : String) : ImageTag := ⟨pipelineStream, tag⟩

/-- The image that a name stands for. The first mark divides stream and tag. -/
def ofName (name : String) : ImageTag :=
  match Text.splitAt? ':' name with
  | some (stream, tag) => ⟨stream, tag⟩
  | none => pipeline name

/-- The name of an image. -/
def name (image : ImageTag) : String := image.stream ++ ":" ++ image.tag

/-- No mark stands in the pipeline's stream. -/
theorem pipelineStream_unmarked : ':' ∉ pipelineStream.toList := by decide

/-- The name of an image leads back to it, if no mark stands in its stream. -/
theorem ofName_name (image : ImageTag) (clean : ':' ∉ image.stream.toList) :
    ofName image.name = image := by
  have split : Text.splitAt? ':' image.name = some (image.stream, image.tag) :=
    Text.splitAt?_eq_some_iff.2 ⟨clean, rfl⟩
  rw [ofName, split]

/-- A name without a mark stands for a tag of the pipeline. -/
theorem ofName_unmarked {name : String} (unmarked : ':' ∉ name.toList) :
    ofName name = pipeline name := by
  rw [ofName, Text.splitAt?_eq_none_iff.2 unmarked]

/-- No mark stands in the stream of an image that a name stands for. -/
theorem stream_ofName (name : String) : ':' ∉ (ofName name).stream.toList := by
  rw [ofName]
  split
  · rename_i split
    exact (Text.splitAt?_eq_some_iff.1 split).1
  · exact pipelineStream_unmarked

/-- A tag of the pipeline is named with its stream, or by itself if it has no mark. -/
theorem ofName_eq_pipeline_iff {name tag : String} :
    ofName name = pipeline tag ↔
      name = (pipeline tag).name ∨ name = tag ∧ ':' ∉ tag.toList := by
  constructor
  · intro same
    rw [ofName] at same
    split at same
    · rename_i stream rest split
      obtain ⟨rfl, rfl⟩ := ImageTag.mk.inj same
      exact .inl (Text.splitAt?_eq_some_iff.1 split).2
    · rename_i split
      obtain rfl := (ImageTag.mk.inj same).2
      exact .inr ⟨rfl, Text.splitAt?_eq_none_iff.1 split⟩
  · rintro (rfl | ⟨rfl, unmarked⟩)
    · exact ofName_name (pipeline tag) pipelineStream_unmarked
    · exact ofName_unmarked unmarked

end ImageTag

end StagedTest
