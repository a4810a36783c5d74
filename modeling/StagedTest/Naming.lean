import StagedTest.Text.Affix

/-!
# Names

The names of the objects that a test creates, and of the streams that releases live in. Other
programs look these objects up by the same rules, so the formats are fixed. The main statements
say that the name of a pod leads back to its step, and the stream of a release to that release.
-/
namespace StagedTest.Naming

/-- The secret behind the shared directory has the name of the test. -/
def sharedSecret (test : String) : String := test

/-- The secret that holds the cluster profile of a test. -/
def profileSecret (test : String) : String := test ++ "-cluster-profile"

/-- The copy of a secret of another namespace begins with the name of that namespace. -/
def mirroredCredential (ns name : String) : String := ns ++ "-" ++ name

/-- The pod of a step. -/
def pod (test step : String) : String := test ++ "-" ++ step

/-- The step that a pod of a test runs; a pod of another name counts as its own step. -/
def stepOfPod (test pod : String) : String :=
  (Text.after? (test ++ "-") pod).getD pod

/-- The test as part of an object name, in which no underscore may stand. -/
def safeJobName (test : String) : String :=
  test.map fun c => if c = '_' then '-' else c

/-- The stream of the latest release. -/
def stableStream : String := "stable"

/-- The name of the latest release. -/
def latestRelease : String := "latest"

/-- The stream that holds the images of a release. -/
def releaseStream (release : String) : String :=
  if release = latestRelease then stableStream else stableStream ++ "-" ++ release

/-- The release whose images a stream holds, if it is the stream of a release. -/
def releaseName? (stream : String) : Option String :=
  if stream = stableStream then some latestRelease
  else (Text.after? (stableStream ++ "-") stream).filter (· ≠ "")

/-- The pod of a step leads back to that step. -/
@[simp] theorem stepOfPod_pod (test step : String) : stepOfPod test (pod test step) = step := by
  simp [stepOfPod, pod]

/-- The stream of a release is that of the latest one, or begins with its name. -/
theorem releaseStream_cases (release : String) :
    release = latestRelease ∧ releaseStream release = stableStream ∨
      release ≠ latestRelease ∧ releaseStream release = stableStream ++ "-" ++ release := by
  by_cases latest : release = latestRelease
  · exact .inl ⟨latest, if_pos latest⟩
  · exact .inr ⟨latest, if_neg latest⟩

/-- The streams of releases begin alike. -/
theorem head?_releaseStream (release : String) :
    (releaseStream release).toList.head? = some 's' := by
  rcases releaseStream_cases release with ⟨_, stream⟩ | ⟨_, stream⟩ <;>
    simp [stream, stableStream]

/-- A mark that does not stand in a release does not stand in its stream. -/
theorem releaseStream_unmarked {release : String} (unmarked : ':' ∉ release.toList) :
    ':' ∉ (releaseStream release).toList := by
  rcases releaseStream_cases release with ⟨_, stream⟩ | ⟨_, stream⟩ <;>
    simp [stream, stableStream, unmarked]

/-- The stream of a release that has a name leads back to that release. -/
theorem releaseName?_releaseStream {release : String} (named : release ≠ "") :
    releaseName? (releaseStream release) = some release := by
  rcases releaseStream_cases release with ⟨rfl, stream⟩ | ⟨_, stream⟩
  · rw [stream, releaseName?, if_pos rfl]
  · have longer : stableStream ++ "-" ++ release ≠ stableStream := fun same => by
      have length := congrArg String.length same
      simp only [String.length_append] at length
      have dash : "-".length = 1 := rfl
      omega
    rw [stream, releaseName?, if_neg longer, Text.after?_append]
    simpa using named

end StagedTest.Naming
