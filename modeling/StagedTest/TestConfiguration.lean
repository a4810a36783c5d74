import StagedTest.Step

/-!
# Test configurations

A test is a name, three phases of steps that run one after the other, and what all of its steps
share. A profile names a bundle of credentials and parameters that gives a test access to a cluster;
the bundle itself is put in place by others, as a secret of the test's namespace.
-/
namespace StagedTest

/-- The name of a bundle that gives access to a cluster. -/
structure ClusterProfile where
  /-- The name as it is declared. -/
  name : String
deriving DecidableEq, Inhabited, Repr

namespace ClusterProfile

/-- Profiles that are variations of another one, with the type of cluster that they share. -/
def variations : List (String × String) :=
  [ ("aws-cpaas", "aws"), ("aws-gluster", "aws"), ("gcp-40", "gcp"), ("gcp-crio", "gcp")
  , ("gcp-ha", "gcp"), ("gcp-logging", "gcp"), ("gcp-logging-crio", "gcp")
  , ("gcp-logging-journald", "gcp") ]

/-- The type of cluster that a profile provides: the profile's own name, unless the profile is
a variation. -/
def clusterType (profile : ClusterProfile) : String :=
  (variations.lookup profile.name).getD profile.name

/-- A profile is written as its name. -/
def codec : Codec ClusterProfile := Codec.text.wrap ClusterProfile.mk ClusterProfile.name

end ClusterProfile

/-- A resource that is leased before the test starts. -/
structure Lease where
  /-- The type of the resource. -/
  resourceType : String
  /-- The variable that holds the name of the leased resource. -/
  variableName : String
deriving DecidableEq, Inhabited, Repr

/-- The written form of a lease. -/
def Lease.codec : Codec Lease :=
  Fields.codec
    (Lease.mk <$> Fields.required "resource_type" .text resourceType
      <*> Fields.required "env" .text variableName)
    "StepLease"

/-- A test as it is declared. -/
structure TestConfiguration where
  /-- The name of the test, which its objects carry. -/
  name : String
  /-- The profile of the cluster that the test runs against. -/
  clusterProfile : Option ClusterProfile
  /-- Values of the test for the parameters of its steps. -/
  environment : StringMap String
  /-- The steps that prepare. -/
  pre : List Step
  /-- The steps that test. -/
  test : List Step
  /-- The steps that clean up. -/
  post : List Step
  /-- Whether optional steps are left out when nothing has failed. -/
  allowSkipOnSuccess : Option Bool
  /-- What is leased for the test. -/
  leases : List Lease
deriving Inhabited

namespace TestConfiguration

/-- All steps in the order in which they run. -/
def steps (config : TestConfiguration) : List Step := config.pre ++ config.test ++ config.post

/-- Whether optional steps are left out when nothing has failed. -/
def allowsSkip (config : TestConfiguration) : Bool := config.allowSkipOnSuccess.getD false

/-- What the test is called in reports. -/
def description (config : TestConfiguration) : String := "Run multi-stage test " ++ config.name

/-- The written form. -/
def codec : Codec TestConfiguration :=
  Fields.codec
    (TestConfiguration.mk <$> Fields.required "as" .text name
      <*> Fields.optional "cluster_profile" ClusterProfile.codec clusterProfile
      <*> Fields.defaulted "environment" (.map .text) ∅ environment
      <*> Fields.defaulted "pre" Step.codec.list [] pre
      <*> Fields.defaulted "test" Step.codec.list [] test
      <*> Fields.defaulted "post" Step.codec.list [] post
      <*> Fields.optional "allow_skip_on_success" .bool allowSkipOnSuccess
      <*> Fields.defaulted "leases" Lease.codec.list [] leases)
    "TestConfiguration"

end TestConfiguration

end StagedTest
