import StagedTest.Plan
import StagedTest.Yaml.Reader

/-!
# Run files

A run file holds everything that a run is decided by, except what surrounds the command that
runs it. It is written in YAML.
-/
namespace StagedTest

/-- What a run file holds. -/
structure RunFile where
  /-- The job that the test runs in. -/
  job : Job
  /-- The build that the test belongs to. -/
  build : BuildConfiguration
  /-- The test. -/
  config : TestConfiguration
  /-- The values from outside that are given. -/
  parameters : StringMap String

/-- Why a run file cannot be used. -/
inductive RunFileFailure
  /-- The file does not hold one document. -/
  | notOneDocument
  /-- The document is not a run file's. -/
  | malformed (source : DecodeError)
deriving DecidableEq, Repr

/-- The wording of the cause. -/
def RunFileFailure.message : RunFileFailure → String
  | .notOneDocument => "the file does not hold one YAML document"
  | .malformed source => source.message

namespace RunFile

/-- The written form. -/
def codec : Codec RunFile :=
  Fields.codec
    (RunFile.mk <$> Fields.required "job" Job.codec job
      <*> Fields.defaulted "build" BuildConfiguration.codec .empty build
      <*> Fields.required "test" TestConfiguration.codec config
      <*> Fields.defaulted "parameters" Codec.text.map .empty parameters)
    "RunFile"

/-- What a text holds. -/
def parse (text : String) : Except RunFileFailure RunFile :=
  match Yaml.parse? text with
  | none => .error .notOneDocument
  | some value => (codec.decode value).mapError .malformed

/-- What a run is decided by, given what surrounds it if that is to be asked. -/
def plan (file : RunFile) (surroundings : Option (StringMap String)) : Plan where
  config := file.config
  build := file.build
  job := file.job
  parameters := { values := file.parameters, surroundings }

end RunFile

end StagedTest
