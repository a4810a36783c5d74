/-!
# Conventions

The labels, directories, variables, volumes and streams that a test and its surroundings have
agreed on.
-/
namespace StagedTest

/-! ## Labels and annotations -/
namespace Label

/-- Marks an object as belonging to a test. -/
def test : String := "ci.openshift.io/multi-stage-test"

/-- Marks a pod as created by the build system. -/
def createdBy : String := "created-by-ci"

/-- Asks for the logs of a pod's containers to be kept. -/
def saveLogs : String := "ci-operator.openshift.io/save-container-logs"

end Label

/-! ## Directories and files in a step's container -/
namespace Path

/-- The shared directory. -/
def sharedDirectory : String := "/var/run/secrets/ci.openshift.io/multi-stage"

/-- The files of the cluster profile. -/
def profile : String := "/var/run/secrets/ci.openshift.io/cluster-profile"

/-- The directory of the release's command line tool. -/
def cli : String := "/cli"

/-- The home directory. -/
def home : String := "/alabama"

/-- The directory of the artifacts. -/
def artifacts : String := "/tmp/artifacts"

/-- The directory of the wrapper that saves the shared directory. -/
def wrapperDirectory : String := "/tmp/secret-wrapper"

/-- The wrapper that saves the shared directory. -/
def wrapper : String := wrapperDirectory ++ "/secret-wrapper"

/-- The wrapper in the image that it is copied from. -/
def wrapperSource : String := "/bin/secret-wrapper"

/-- The command line tool in the image of a release. -/
def cliSource : String := "/usr/bin/oc"

/-- The credentials that the installing steps leave in the shared directory. -/
def kubeconfig : String := sharedDirectory ++ "/kubeconfig"

/-- The password that the installing steps leave in the shared directory. -/
def adminPassword : String := sharedDirectory ++ "/kubeadmin-password"

end Path

/-! ## Environment variables of a step -/
namespace Variable

/-- Where the shared directory is. -/
def sharedDirectory : String := "SHARED_DIR"

/-- Where the cluster profile is. -/
def profileDirectory : String := "CLUSTER_PROFILE_DIR"

/-- The type of cluster that the profile provides. -/
def clusterType : String := "CLUSTER_TYPE"

/-- Where the release's command line tool is. -/
def cliDirectory : String := "CLI_DIR"

/-- Where the credentials of the cluster under test are. -/
def kubeconfig : String := "KUBECONFIG"

/-- Where the administrator's password is. -/
def adminPasswordFile : String := "KUBEADMIN_PASSWORD_FILE"

/-- The namespace of the test. -/
def ns : String := "NAMESPACE"

/-- The name of the test as part of an object name. -/
def safeJobName : String := "JOB_NAME_SAFE"

/-- The short identifier of the job. -/
def jobNameHash : String := "JOB_NAME_HASH"

/-- Where the artifacts go. -/
def artifactDirectory : String := "ARTIFACT_DIR"

/-- The payload of the latest release. -/
def latestReleaseImage : String := "RELEASE_IMAGE_LATEST"

/-- The resource that was leased for the test. -/
def leasedResource : String := "LEASED_RESOURCE"

/-- How the pull spec of an image is written. -/
def imageFormat : String := "IMAGE_FORMAT"

/-- What a variable begins with that holds the payload of a release. -/
def releaseImageLead : String := "RELEASE_IMAGE_"

/-- The variables of every test with a cluster profile, in the order in which they are set. -/
def ofProfile : List String := [latestReleaseImage, leasedResource, imageFormat]

/-- The index image of an optional operator. -/
def operatorIndex : String := "OO_INDEX"

/-- The package of an optional operator. -/
def operatorPackage : String := "OO_PACKAGE"

/-- The channel of an optional operator. -/
def operatorChannel : String := "OO_CHANNEL"

/-- The namespace that an optional operator is installed in. -/
def operatorInstallNamespace : String := "OO_INSTALL_NAMESPACE"

/-- The namespaces that an optional operator watches. -/
def operatorTargetNamespaces : String := "OO_TARGET_NAMESPACES"

end Variable

/-! ## Volumes and containers of a pod -/
namespace VolumeName

/-- The home directory. -/
def home : String := "home"

/-- The artifacts. -/
def artifacts : String := "artifacts"

/-- The cluster profile. -/
def profile : String := "cluster-profile"

/-- The release's command line tool. -/
def cli : String := "cli"

/-- The wrapper that saves the shared directory. -/
def wrapper : String := "secret-wrapper"

end VolumeName

namespace ContainerName

/-- The container that runs the step. -/
def test : String := "test"

/-- Copies the release's command line tool. -/
def injectCli : String := "inject-cli"

/-- Copies the wrapper. -/
def copyWrapper : String := "cp-secret-wrapper"

end ContainerName

/-! ## Images and places outside the test -/
namespace Registry

/-- The registry that the build system's own images come from. -/
def host : String := "registry.ci.openshift.org"

/-- The image that holds the wrapper. -/
def wrapperImage : String := host ++ "/ci/secret-wrapper:latest"

/-- Where steps and jobs are documented. -/
def steps : String := "https://steps.ci.openshift.org"

/-- The tag of the command line tool in the stream of a release. -/
def cliTag : String := "cli"

end Registry

/-! ## The first lines of a step's script -/
namespace Preamble

/-- The lines before the commands of every step. The credentials are copied so that a step may
change them for itself alone, and a home directory is provided where there is none. -/
def lines : List String :=
  [ "#!/bin/bash"
  , "set -eu"
  , "if [[ -e $\x7bKUBECONFIG:-\x7d ]]; then WRITEABLE_KUBECONFIG_LOCATION=$(mktemp) && " ++
    "cp $KUBECONFIG $WRITEABLE_KUBECONFIG_LOCATION && " ++
    "export KUBECONFIG=$WRITEABLE_KUBECONFIG_LOCATION && " ++
    "unset WRITEABLE_KUBECONFIG_LOCATION; fi"
  , "if ! [[ -d $\x7bHOME:-\x7d ]]; then export HOME=/alabama; fi" ]

/-- The line that puts the release's command line tool in the path. -/
def exportCli : String := "export PATH=\"$\x7bPATH\x7d:$\x7bCLI_DIR\x7d\""

end Preamble

end StagedTest
