import StagedTest.Proofs.Recording
import StagedTest.Proofs.Watching

/-!
# The two reports of a failed pod

A pod that has failed is reported twice: by a message, which lists the containers that have failed
with their exit codes, and by its record, which becomes a test case for each container that has
ended. The two are put together by different parts of the program. The main statement is that they
tell of the same containers, as long as no two containers of the pod have a name in common, also
where a wait has ended because the pod has failed.
-/
namespace StagedTest

/-! ## What there is to report -/

/-- Whether a container that has ended has failed. -/
def Termination.failed (termination : Termination) : Bool := decide (termination.exitCode ≠ 0)

/-- The containers of a pod that have failed, with how they ended. -/
def Pod.failed (pod : Pod) : List (String × Termination) := pod.ended.filter (·.2.failed)

/-- A message about a failed pod that lists containers with their exit codes. -/
def Pod.messageListing (pod : Pod) (containers : List (String × Int32)) : String :=
  "the pod failed" ++ pod.reason?.elim "" (" with reason " ++ ·) ++
    (if containers = [] then "" else ", failed containers: " ++
      ", ".intercalate (containers.map fun (name, code) =>
        name ++ " (exit code " ++ toString code ++ ")")) ++
    (pod.status.bind (·.message)).elim "" (": " ++ ·)

/-- The test case of a container that has failed. -/
def TestCase.ofFailed (lead : String) (entry : String × Termination) : TestCase :=
  { name := lead ++ "container " ++ entry.1
    timestamp := entry.2.startedAt
    durationSeconds := entry.2.duration
    failure := some ("container " ++ entry.1 ++ " exited with code " ++
      toString entry.2.exitCode ++ entry.2.reason.elim "" (", reason " ++ ·) ++
      entry.2.message.elim "" (": " ++ ·)) }

/-- A message and a record both tell of the containers of a pod that have failed, in order, and of
no others, and both with the exit codes. -/
structure Pod.ReportedBy (pod : Pod) (message : String) (record : PodRecord) : Prop where
  /-- The message lists the containers that have failed. -/
  listed : message =
    pod.messageListing (pod.failed.map fun (name, termination) => (name, termination.exitCode))
  /-- The test cases that are not passed are those of the containers that have failed. -/
  recorded : ∀ lead, (record.testCases lead).filter (fun case => !case.passed) =
    pod.failed.map (TestCase.ofFailed lead)

/-! ## The message -/

/-- The containers that a message lists are those that have failed. -/
theorem Pod.failures_eq (pod : Pod) :
    pod.failures = pod.failed.map fun (name, termination) => (name, termination.exitCode) := by
  rw [failures, failed, ended_eq]
  induction pod.containerStatuses with
  | nil => rfl
  | cons status rest ih =>
    rw [List.filterMap_cons, List.filterMap_cons, ih, ContainerStatus.ended?,
      ContainerStatus.termination?]
    cases status.state.bind (·.terminated) with
    | none => rfl
    | some termination =>
      by_cases well : termination.exitCode = 0 <;> simp [Termination.failed, well]

/-- The message of a failed pod lists the containers that have failed, with their exit codes. -/
theorem Pod.failureMessage_eq (pod : Pod) :
    pod.failureMessage =
      pod.messageListing
        (pod.failed.map fun (name, termination) => (name, termination.exitCode)) := by
  rw [← failures_eq]
  unfold failureMessage messageListing
  have nothing : (pod.failures.map fun (name, code) => s!"{name} (exit code {code})").isEmpty ↔
      pod.failures = [] := by
    simp
  simp only [nothing]
  cases pod.reason? <;> cases pod.status.bind (·.message) <;> rfl

/-! ## The test cases -/

/-- A test case is passed exactly if the container has not failed. -/
theorem ContainerResult.passed_ofEnd (lead : String) (entry : String × Termination) :
    ((ofEnd entry).testCase lead).passed = !entry.2.failed := by
  by_cases well : entry.2.exitCode = 0 <;>
    simp [testCase, ofEnd, TestCase.passed, failureOf, Termination.failed, well]

/-- What is written down of a container that has failed becomes its test case. -/
theorem ContainerResult.testCase_ofEnd (lead : String) {entry : String × Termination}
    (failed : entry.2.failed = true) :
    (ofEnd entry).testCase lead = .ofFailed lead entry := by
  have bad : entry.2.exitCode ≠ 0 := by simpa [Termination.failed] using failed
  obtain ⟨name, termination⟩ := entry
  have told : failureOf name termination =
      (TestCase.ofFailed lead (name, termination)).failure := by
    unfold failureOf TestCase.ofFailed
    rw [if_neg bad]
    dsimp only
    cases termination.reason <;> cases termination.message <;> rfl
  unfold testCase ofEnd
  rw [told]
  rfl

/-- Of entries with different names each is the first of its name. -/
theorem firstOfEach_of_nodup {α : Type} {entries : List (String × α)}
    (once : (entries.map (·.1)).Nodup) : firstOfEach entries = entries := by
  induction entries with
  | nil => rfl
  | cons entry later ih =>
    obtain ⟨fresh, onceLater⟩ := List.nodup_cons.1 once
    have different : ∀ other ∈ later, decide (other.1 ≠ entry.1) = true := by
      intro other member
      exact decide_eq_true fun same => fresh (List.mem_map.2 ⟨other, member, same⟩)
    rw [firstOfEach, ih onceLater, List.filter_eq_self.2 different]

/-- Where no two containers have a name in common, neither have two that have ended. -/
theorem Pod.nodup_names_ended {pod : Pod}
    (distinct : (pod.containerStatuses.map (·.name)).Nodup) :
    (pod.ended.map (·.1)).Nodup := by
  have among : ∀ statuses : List ContainerStatus,
      ((statuses.filterMap ContainerStatus.ended?).map (·.1)).Sublist
        (statuses.map (·.name)) := by
    intro statuses
    induction statuses with
    | nil => exact List.Sublist.refl _
    | cons status rest ih =>
      rw [List.filterMap_cons]
      cases seen : status.ended? with
      | none => exact ih.cons _
      | some entry =>
        rw [List.map_cons, List.map_cons, ContainerStatus.name_of_ended? seen]
        exact ih.cons_cons _
  rw [ended_eq]
  exact distinct.sublist (among pod.containerStatuses)

/-- The test cases of a record of the first ends of each name that are not passed are those of the
containers that have failed. -/
theorem PodRecord.failed_testCases {record : PodRecord} {entries : List (String × Termination)}
    (written : record.results = entries.map .ofEnd) (lead : String) :
    (record.testCases lead).filter (fun case => !case.passed) =
      (entries.filter (·.2.failed)).map (TestCase.ofFailed lead) := by
  rw [testCases, written, List.map_map, List.filter_map]
  have same : ((fun case : TestCase => !case.passed) ∘
      (fun result : ContainerResult => result.testCase lead) ∘ ContainerResult.ofEnd) =
        fun entry => entry.2.failed := by
    funext entry
    have passed := ContainerResult.passed_ofEnd lead entry
    simp [passed]
  rw [same]
  refine List.map_congr_left fun entry member => ?_
  exact ContainerResult.testCase_ofEnd lead (List.mem_filter.1 member).2

/-! ## Both reports -/

/-- A pod without two containers of one name that is seen on a new record is reported there as its
message reports it. -/
theorem Pod.reportedBy_observe {pod : Pod}
    (distinct : (pod.containerStatuses.map (·.name)).Nodup) :
    pod.ReportedBy pod.failureMessage (PodRecord.empty.observe pod) where
  listed := pod.failureMessage_eq
  recorded lead := by
    have written : (PodRecord.empty.observe pod).results = pod.ended.map .ofEnd := by
      have all := PodRecord.results_observeAll [pod]
      rw [List.flatMap_singleton, firstOfEach_of_nodup (nodup_names_ended distinct)] at all
      exact all
    exact PodRecord.failed_testCases written lead

namespace Client

/-- A wait that ends because a pod has failed carries the pod's message, and nothing but this pod
is on its record. -/
theorem podFailed_of_ends {token : Token} {ns name : String} {history : History Transport}
    {outcome : Watch} (ends : (awaitPod token ns name).Ends history outcome) {pod : Pod}
    {message : String} (failed : outcome.result = .error (.podFailed pod message)) :
    message = pod.failureMessage ∧ outcome.record = PodRecord.empty.observe pod := by
  obtain ⟨sightings, ⟨_, _, rfl⟩ | ⟨decision, _, _, rfl⟩⟩ := ends_watch_iff.1 ends
  · cases failed
  · cases decision with
    | calledOff | unobservable | succeeded => cases failed
    | failed answer shown =>
      cases failed
      exact ⟨rfl, rfl⟩

end Client

/-- Where no two containers of a pod have a name in common, the message of the pod and a new record
on which the pod is seen tell of the same failed containers, in the same order and with the same
exit codes. So do the message of a wait that ends because the pod has failed and the record of that
wait. -/
theorem Pod.reports_agree :
    (∀ pod : Pod, (pod.containerStatuses.map (·.name)).Nodup →
      pod.ReportedBy pod.failureMessage (PodRecord.empty.observe pod)) ∧
    ∀ token ns name history outcome (pod : Pod) message,
      (Client.awaitPod token ns name).Ends history outcome →
      outcome.result = .error (.podFailed pod message) →
      (pod.containerStatuses.map (·.name)).Nodup →
        pod.ReportedBy message outcome.record := by
  refine ⟨fun pod distinct => reportedBy_observe distinct, ?_⟩
  intro token ns name history outcome pod message ends failed distinct
  obtain ⟨rfl, only⟩ := Client.podFailed_of_ends ends failed
  rw [only]
  exact reportedBy_observe distinct

/-- A network that shows a pod that has failed: one of its containers has ended with an exit code,
and the other one runs. -/
def Client.crashing : Network where
  forever := { response := { status := 200, body := "\x7b\"status\":\x7b\"phase\":\"Failed\"," ++
    "\"containerStatuses\":[\x7b\"name\":\"log\"\x7d,\x7b\"name\":\"test\"," ++
    "\"state\":\x7b\"terminated\":\x7b\"exitCode\":137\x7d\x7d\x7d]\x7d\x7d" } }

/-- The pod that a wait found to have failed, with the message about it. -/
def Watch.failure? (watch : Watch) : Option (Pod × String) :=
  match watch.result with
  | .error (.podFailed pod message) => some (pod, message)
  | _ => none

/-- What comes of waiting for that pod. -/
def Client.crash : Watch :=
  ((awaitPod .caller "ci" "e2e-unit").run Network.handler crashing).1

/-- The pod is found to have failed. -/
theorem Client.failure?_crash :
    crash.failure?.map (fun (pod, message) => (pod.containerStatuses.map (·.name), message)) =
      some (["log", "test"],
        "the pod failed, failed containers: test (exit code 137)") := by
  decide +kernel

/-- Both reports of a wait tell that one container of the pod has failed. -/
theorem Pod.reports_agree_crashing :
    ∃ pod message, Client.crash.result = .error (.podFailed pod message) ∧
      pod.containerStatuses.map (·.name) = ["log", "test"] ∧
      message = "the pod failed, failed containers: test (exit code 137)" ∧
      pod.ReportedBy message Client.crash.record := by
  obtain ⟨⟨pod, message⟩, found, told⟩ := Option.map_eq_some_iff.1 Client.failure?_crash
  obtain ⟨names, wording⟩ := Prod.mk.inj told
  have failed : Client.crash.result = .error (.podFailed pod message) := by
    unfold Watch.failure? at found
    split at found
    · rename_i same
      cases found
      exact same
    · cases found
  have distinct : (pod.containerStatuses.map (·.name)).Nodup := by
    rw [names]
    decide
  have ends := Program.ends_run Network.handler (Client.awaitPod .caller "ci" "e2e-unit")
    Client.crashing
  exact ⟨pod, message, failed, names, wording,
    reports_agree.2 _ _ _ _ _ pod message ends failed distinct⟩

end StagedTest
