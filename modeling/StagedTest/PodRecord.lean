import StagedTest.Metadata
import StagedTest.Pod

/-!
# Records of pods

While a pod is watched, the end of each of its containers is written down, once for each name.
The record becomes the test cases of a report: a test case tells how one container of one step
ended, in the form in which reports are kept.
-/
namespace StagedTest

/-- How one container of one step ended. -/
structure TestCase where
  /-- The name of the case. -/
  name : String
  /-- When the container started. -/
  timestamp : Option Instant
  /-- How long it ran. -/
  durationSeconds : Decimal
  /-- Why it failed, if it did. -/
  failure : Option String

namespace TestCase

/-- Whether the container ended well. -/
def passed (case : TestCase) : Bool := case.failure.isNone

/-- The written form. -/
def codec : Codec TestCase :=
  Fields.codec
    (TestCase.mk <$> Fields.required "name" .text name
      <*> Fields.optional "timestamp" Instant.codec timestamp
      <*> Fields.required "duration_seconds" .decimal durationSeconds
      <*> Fields.optional "failure" .text failure)
    "TestCase"

end TestCase

/-- How a container ended, as it is written down. -/
structure ContainerResult where
  /-- The container. -/
  name : String
  /-- When it started. -/
  started : Option Instant
  /-- When it ended. -/
  finished : Option Instant
  /-- Why it failed, if it did. -/
  failure : Option String

namespace ContainerResult

/-- What is written down of an end. -/
def failureOf (name : String) (termination : Termination) : Option String :=
  if termination.exitCode = 0 then none
  else
    let reason := match termination.reason with
      | some reason => ", reason " ++ reason
      | none => ""
    let message := match termination.message with
      | some message => ": " ++ message
      | none => ""
    some (s!"container {name} exited with code {termination.exitCode}" ++ reason ++ message)

/-- What is written down of a container that has ended. -/
def ofStatus? (status : ContainerStatus) : Option ContainerResult :=
  status.termination?.map fun termination =>
    { name := status.name
      started := termination.startedAt
      finished := termination.finishedAt
      failure := failureOf status.name termination }

/-- How long the container ran; nothing where its start or its end is not known. -/
def duration (result : ContainerResult) : Decimal :=
  match result.started, result.finished with
  | some started, some finished => .ofThousandths (started.millisecondsUntil finished)
  | _, _ => .ofThousandths 0

/-- The test case of a result. -/
def testCase (lead : String) (result : ContainerResult) : TestCase :=
  { name := lead ++ "container " ++ result.name
    timestamp := result.started
    durationSeconds := result.duration
    failure := result.failure }

end ContainerResult

/-- What is written down of a pod. -/
structure PodRecord where
  /-- The ends of the containers, in the order in which they were seen. -/
  results : List ContainerResult := []
deriving Inhabited

namespace PodRecord

/-- The record before anything was seen. -/
def empty : PodRecord := {}

/-- Whether the end of a container is written down. -/
def holds (record : PodRecord) (name : String) : Bool :=
  record.results.any (·.name == name)

/-- Writes down the end of one container, unless one of that name is there. -/
def observeStatus (record : PodRecord) (status : ContainerStatus) : PodRecord :=
  if record.holds status.name then record
  else { results := record.results ++ (ContainerResult.ofStatus? status).toList }

/-- Writes down what can be seen of a pod. -/
def observe (record : PodRecord) (pod : Pod) : PodRecord :=
  pod.containerStatuses.foldl observeStatus record

/-- Writes down what can be seen of a pod again and again. -/
def observeAll (record : PodRecord) (pods : List Pod) : PodRecord := pods.foldl observe record

/-- The test cases of a record, whose names begin with a given lead. -/
def testCases (record : PodRecord) (lead : String) : List TestCase :=
  record.results.map (·.testCase lead)

variable {record : PodRecord} {name : String}

/-- What is written down stays there when another container is seen. -/
theorem holds_observeStatus_of_holds (there : record.holds name = true)
    (status : ContainerStatus) : (record.observeStatus status).holds name = true := by
  rw [observeStatus]
  split
  · exact there
  · rw [holds, List.any_append]
    exact Bool.or_eq_true_iff.2 (.inl there)

/-- The end of a container is written down when it is seen. -/
theorem holds_observeStatus (record : PodRecord) {status : ContainerStatus}
    (ended : status.termination?.isSome = true) :
    (record.observeStatus status).holds status.name = true := by
  obtain ⟨termination, found⟩ := Option.isSome_iff_exists.1 ended
  rw [observeStatus]
  split
  · assumption
  · simp [holds, ContainerResult.ofStatus?, found]

/-- What is written down stays there when other containers are seen. -/
theorem holds_foldl_of_holds (there : record.holds name = true)
    (statuses : List ContainerStatus) :
    (statuses.foldl observeStatus record).holds name = true := by
  induction statuses generalizing record with
  | nil => exact there
  | cons status rest ih => exact ih (holds_observeStatus_of_holds there status)

/-- The ends of all containers of a pod are written down when the pod is seen. -/
theorem holds_observe (record : PodRecord) {pod : Pod} {status : ContainerStatus}
    (member : status ∈ pod.containerStatuses) (ended : status.termination?.isSome = true) :
    (record.observe pod).holds status.name = true := by
  obtain ⟨early, late, whole⟩ := List.append_of_mem member
  rw [observe, whole, List.foldl_append, List.foldl_cons]
  exact holds_foldl_of_holds (holds_observeStatus _ ended) late

end PodRecord

end StagedTest
