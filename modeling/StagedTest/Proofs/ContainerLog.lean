import StagedTest.Proofs.Cleanup
import StagedTest.Proofs.PhaseStates

/-!
# The log of containers

A pod that is accepted is watched, and what is written down of its containers meanwhile goes to the
log of the test, whatever comes of the pod, of its phase and of the run. The main statement says
that the log only grows, and tells pod by pod what a run adds to it.
-/
namespace StagedTest

open Program PhaseRun

/-! ## What a history adds to the log -/

/-- A wait for a pod. -/
structure Wait where
  /-- The namespace of the pod. -/
  ns : String
  /-- The pod. -/
  pod : String
  /-- What came of it. -/
  watch : Watch

/-- The waits of a history, in order. -/
def waits (history : History Cluster) : List Wait :=
  history.filterMap fun
    | ⟨.awaitPod _ ns pod, watch⟩ => some ⟨ns, pod, watch⟩
    | _ => none

/-- What a wait adds to the log of a test: the ends of containers that are on a record of its own
when it is over, each called after the pod. -/
def Wait.cases (test : String) (wait : Wait) : List TestCase :=
  (PodRecord.empty.observeAll wait.watch.seen).results.map fun result =>
    { name := "Run multi-stage test " ++ test ++ " - " ++ wait.pod ++ " container " ++ result.name
      timestamp := result.started
      durationSeconds := result.duration
      failure := result.failure }

/-- What a history adds to the log of a test: each pod that is accepted is waited for once, in the
order in which the pods are handed over, and each wait adds its part. -/
structure Logs (plan : Plan) (history : History Cluster) (added : List TestCase) : Prop where
  /-- The pods that are waited for are those that are accepted. -/
  watched : (waits history).map (fun wait => (wait.ns, wait.pod)) =
    (accepted history).map fun pod => (plan.ns, pod)
  /-- The waits add their parts. -/
  logged : added = (waits history).flatMap (Wait.cases plan.test)

/-- Whether a call hands over a pod or waits for one. -/
def ClusterCall.isTurn : ClusterCall → Bool
  | .submitPod _ | .awaitPod .. => true
  | _ => false

/-- The waits of two histories follow each other. -/
theorem waits_append (early late : History Cluster) :
    waits (early ++ late) = waits early ++ waits late :=
  List.filterMap_append

namespace Logs

variable {plan : Plan}

/-- What two histories add follows each other. -/
theorem append {early late : History Cluster} {first second : List TestCase}
    (begun : Logs plan early first) (ended : Logs plan late second) :
    Logs plan (early ++ late) (first ++ second) := by
  refine ⟨?_, ?_⟩
  · rw [waits_append, accepted_append, List.map_append, List.map_append, begun.watched,
      ended.watched]
  · rw [waits_append, List.flatMap_append, begun.logged, ended.logged]

/-- A history in which no pod is handed over or waited for adds nothing. -/
theorem nothing {history : History Cluster}
    (aside : ∀ event ∈ history, ClusterCall.isTurn event.1 = false) : Logs plan history [] := by
  have noWait : waits history = [] := by
    rw [waits, List.filterMap_eq_nil_iff]
    rintro ⟨asked, answer⟩ member
    cases asked with
    | awaitPod => cases aside _ member
    | _ => rfl
  have noneAccepted : accepted history = [] := by
    rw [accepted, List.filterMap_eq_nil_iff]
    rintro ⟨asked, answer⟩ member
    cases asked with
    | submitPod => cases aside _ member
    | _ => rfl
  refine ⟨?_, ?_⟩
  · rw [noWait, noneAccepted]
    rfl
  · rw [noWait]
    rfl

end Logs

/-! ## What phases and runs add -/

/-- A turn adds what its report tells of containers. -/
theorem Turn.logs (plan : Plan) (token : Token) (turn : Turn) :
    Logs plan (turn.history token plan.ns) (turn.report plan).cases := by
  obtain ⟨pod, outcome⟩ := turn
  cases outcome with
  | error error => exact ⟨rfl, rfl⟩
  | ok watch =>
    refine ⟨rfl, ?_⟩
    change watch.record.results.map (·.testCase (lead plan pod.displayName)) =
      Wait.cases plan.test ⟨plan.ns, pod.displayName, watch⟩ ++ []
    rw [List.append_nil]
    refine List.map_congr_left fun result _ => ?_
    have joined : lead plan pod.displayName ++ "container " =
        "Run multi-stage test " ++ plan.test ++ " - " ++ pod.displayName ++ " container " :=
      String.append_assoc
    rw [ContainerResult.testCase, joined]

/-- Turns add what their reports tell. -/
theorem Turn.logs_turns (plan : Plan) (token : Token) (turns : List Turn) :
    Logs plan (turns.flatMap (Turn.history token plan.ns)) (Turn.reports plan turns).cases := by
  induction turns with
  | nil => exact ⟨rfl, rfl⟩
  | cons turn rest ih => exact (turn.logs plan token).append ih

/-- A phase adds what is seen in it, whether it goes well or not. -/
theorem PhaseRun.Course.logs {plan : Plan} {token : Token} {shared : List EnvVar}
    {failedBefore : Bool} {phase : Phase} {history : History Cluster} {outcome : Outcome}
    (course : Course plan token shared failedBefore phase history outcome) :
    Logs plan history outcome.cases := by
  have looking : ∀ images answers, Logs plan (Batch.lookupHistory plan.ns images answers) [] := by
    intro images answers
    refine .nothing fun event member => ?_
    obtain ⟨lookup, _, rfl⟩ := List.mem_map.1 member
    rfl
  cases course with
  | unbuilt => exact looking _ _
  | ran turns closing =>
    have closed : Logs plan (closingHistory plan token closing) [] := by
      cases closing <;> exact ⟨rfl, rfl⟩
    exact ((looking _ _).append (Turn.logs_turns plan token turns)).append closed

/-- What is done before the phases adds nothing. -/
theorem Provision.logs {plan : Plan} {history : History Cluster}
    {result : Except RunError (List EnvVar)}
    (ends : (Provision.all plan).run.Ends history result) : Logs plan history [] := by
  refine .nothing ?_
  rintro ⟨asked, answer⟩ member
  have may := (Provision.prepares_all plan ends).1 _ member
  cases asked with
  | submitPod | awaitPod => cases may
  | _ => rfl

/-- At its end a phase has added what was seen in it to the log. -/
@[simp] theorem Progress.cases_ended (progress : Progress) (phase : Phase) (outcome : Outcome) :
    (progress.ended phase outcome).cases = progress.cases ++ outcome.cases := rfl

/-- The phases of a run add what is seen in them, one after the other. -/
theorem Plan.Stages.logs {plan : Plan} {shared : List EnvVar} {progress after : Progress}
    {pre test post : History Cluster} {result : Except RunError Unit}
    (stages : plan.Stages shared progress pre test post after result) :
    ∃ added, Logs plan (pre ++ test ++ post) added ∧ after.cases = progress.cases ++ added := by
  cases stages with
  | stopped prepared failed cleaned =>
    -- The phase that is left out adds nothing.
    have none : Logs plan [] [] := ⟨rfl, rfl⟩
    refine ⟨_, (prepared.logs.append none).append cleaned.logs, ?_⟩
    simp
  | tested prepared well tried cleaned =>
    refine ⟨_, (prepared.logs.append tried.logs).append cleaned.logs, ?_⟩
    simp

/-- A run adds to the log what is seen in its phases, and nothing if it does not come to them. -/
theorem Plan.logs_run {plan : Plan} {progress after : Progress} {history : History Cluster}
    {result : Except RunError Unit} (ends : (plan.run progress).Ends history (after, result)) :
    ∃ added, Logs plan history added ∧ after.cases = progress.cases ++ added := by
  rcases Plan.ends_run ends with ⟨error, failed, rfl, _⟩ |
    ⟨shared, early, pre, test, post, rfl, provided, stages⟩
  · exact ⟨[], Provision.logs failed, (List.append_nil _).symm⟩
  · obtain ⟨added, logs, grown⟩ := stages.logs
    exact ⟨added, (Provision.logs provided).append logs, grown⟩

/-- Each run of a session leaves the log as it was before, followed by what was written down of
the pods that the run handed over and that were accepted: of each its own part, in their order. So
does the session with the parts of all its runs. -/
theorem Plan.logs_session {plan : Plan} {start last : Progress} {runs : List Account}
    (session : plan.Session start runs last) :
    (∀ early run late, runs = early ++ run :: late → ∃ before added,
      plan.Session start early before ∧
        (plan.run before).Ends run.history (run.after, run.result) ∧
        Logs plan run.history added ∧ run.after.cases = before.cases ++ added) ∧
    last.cases = start.cases ++
      runs.flatMap fun run => (waits run.history).flatMap (Wait.cases plan.test) := by
  induction session with
  | nil =>
    refine ⟨?_, (List.append_nil _).symm⟩
    intro early run late whole
    cases early <;> cases whole
  | @cons progress last first later now rest ih =>
    obtain ⟨each, all⟩ := ih
    obtain ⟨added, logs, grown⟩ := logs_run now
    refine ⟨?_, ?_⟩
    · intro early run late whole
      -- The run in question is the first one, or one of the rest with the first one before it.
      cases early with
      | nil =>
        cases whole
        exact ⟨progress, added, .nil _, now, logs, grown⟩
      | cons head early =>
        obtain ⟨rfl, tail⟩ := List.cons.inj whole
        obtain ⟨before, added, begun, rest⟩ := each early run late tail
        exact ⟨before, added, .cons now begun, rest⟩
    · rw [all, grown, logs.logged, List.flatMap_cons, List.append_assoc]

/-- A cluster in which the wait for the small test's first pod is called off. -/
def Rehearsal.interrupted : Rehearsal :=
  { Rehearsal.small [] with
    scripts := .ofList [("e2e-prepare", [{ finish := .interrupted, cancelsWait := true }])] }

/-- Of a pod whose wait is called off, the container that has ended by then is in the log, before
those of the cleanup. Another run that finds no secret leaves all of them there. -/
theorem Plan.logs_session_interrupted :
    let first := Account.of .small .initial Rehearsal.handler .interrupted
    let second := Account.of .small first.after Rehearsal.handler {}
    second.after.cases.map (·.name) =
      [ "Run multi-stage test e2e - e2e-prepare container cp-secret-wrapper"
      , "Run multi-stage test e2e - e2e-cleanup container cp-secret-wrapper"
      , "Run multi-stage test e2e - e2e-cleanup container test" ] := by
  intro first second
  have session : Plan.small.Session .initial [first, second] second.after :=
    .cons (Account.ends_of .small .initial Rehearsal.handler .interrupted)
      (.cons (Account.ends_of .small first.after Rehearsal.handler {}) (.nil _))
  rw [(logs_session session).2]
  rfl

end StagedTest
