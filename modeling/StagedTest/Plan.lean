import StagedTest.BuildConfiguration
import StagedTest.Digest
import StagedTest.Metadata
import StagedTest.Parameters
import StagedTest.TestConfiguration

/-!
# Plans

A plan is everything that decides a run besides the cluster: the test, the build that it belongs
to, the job on whose behalf and in whose namespace it runs, and the values that it gets from
outside.
-/
namespace StagedTest

/-- The job that a test runs in. -/
structure Job where
  /-- The namespace of everything that the test creates. -/
  ns : String
  /-- The name of the job. -/
  name : String
  /-- The object that the test's pods belong to. -/
  owner : Option OwnerReference
deriving DecidableEq, Inhabited, Repr

namespace Job

/-- How many digits of a digest identify a job. -/
def identifierLength : Nat := 5

/-- A short identifier of the job: the first digits of the digest of its name. -/
def identifier (job : Job) : String :=
  String.ofList ((Digest.hexadecimal (Digest.sha256 job.name.toUTF8.toList)).take identifierLength)

/-- The written form. -/
def codec : Codec Job :=
  Fields.codec
    (Job.mk <$> Fields.required "namespace" .text ns
      <*> Fields.required "job" .text name
      <*> Fields.optional "owner" OwnerReference.codec owner)
    "JobSpec"

end Job

/-- Everything that decides a run besides the cluster. -/
structure Plan where
  /-- The test. -/
  config : TestConfiguration
  /-- The build that the test belongs to. -/
  build : BuildConfiguration
  /-- The job that the test runs in. -/
  job : Job
  /-- The values from outside. -/
  parameters : Parameters

namespace Plan

/-- The name of the test. -/
def test (plan : Plan) : String := plan.config.name

/-- The namespace of the test. -/
def ns (plan : Plan) : String := plan.job.ns

end Plan

end StagedTest
