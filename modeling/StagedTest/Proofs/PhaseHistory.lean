import StagedTest.PhaseRun
import StagedTest.Proofs.Building

/-!
# What a phase asks for

A phase that has all its pods gives each of them a turn, one after the other, and then asks
whether it was called off. A `Turn` is a pod with what came of it, and a phase's history is made
of the lookups of its images, the turns, and the end of the phase. The main statement says so of
every history that a phase can have, whatever the cluster answers.
-/
namespace StagedTest

open Program

/-- The pods that were handed over, in order. -/
def submissions (history : History Cluster) : List Pod :=
  history.filterMap fun
    | ⟨.submitPod pod, _⟩ => some pod
    | _ => none

/-- Whether the next thing in a history is a wait for a pod that does not end well. -/
def waitFails (pod : Pod) : History Cluster → Bool
  | ⟨.awaitPod _ _ name, watch⟩ :: _ => name == pod.displayName && !watch.result.isOk
  | _ => false

/-- For each pod that was handed over, whether it was refused or the wait for it failed. -/
def failures : History Cluster → List Bool
  | [] => []
  | ⟨.submitPod _, .error _⟩ :: rest => true :: failures rest
  | ⟨.submitPod pod, .ok ()⟩ :: rest => waitFails pod rest :: failures rest
  | _ :: rest => failures rest

/-- Pods in order up to and including the first that fails, as far as it is known which fail. -/
def upToFailure : List Pod → List Bool → List Pod
  | [], _ => []
  | pod :: rest, false :: later => pod :: upToFailure rest later
  | pod :: _, _ => [pod]

/-- A pod that was handed over, and what came of it: it was refused, or it was watched. -/
structure Turn where
  /-- The pod. -/
  pod : Pod
  /-- What came of it. -/
  outcome : Except ClientError Watch

namespace Turn

/-- What was asked for in a turn. -/
def history (token : Token) (ns : String) (turn : Turn) : History Cluster :=
  match turn.outcome with
  | .error error => [⟨ClusterCall.submitPod turn.pod, .error error⟩]
  | .ok watch =>
    [⟨ClusterCall.submitPod turn.pod, .ok ()⟩,
      ⟨ClusterCall.awaitPod token ns turn.pod.displayName, watch⟩]

/-- Whether the pod was refused or the wait for it failed. -/
def fails (turn : Turn) : Bool :=
  match turn.outcome with
  | .error _ => true
  | .ok watch => !watch.result.isOk

/-- What is reported of a turn. -/
def report (plan : Plan) (turn : Turn) : PhaseRun.Outcome :=
  match turn.outcome with
  | .error error => { errors := [.createPod turn.pod.displayName error] }
  | .ok watch =>
    { cases := watch.record.testCases (PhaseRun.lead plan turn.pod.displayName)
      errors := match watch.result with
        | .ok _ => []
        | .error error => [PhaseRun.podFailure plan turn.pod error] }

/-- What is reported of turns, in order. -/
def reports (plan : Plan) (turns : List Turn) : PhaseRun.Outcome :=
  ⟨turns.flatMap fun turn => (turn.report plan).cases,
    turns.flatMap fun turn => (turn.report plan).errors⟩

/-- Something is wrong in the report of a turn exactly when it fails. -/
theorem errors_eq_nil_iff (plan : Plan) (turn : Turn) :
    (turn.report plan).errors = [] ↔ turn.fails = false := by
  obtain ⟨pod, outcome⟩ := turn
  cases outcome with
  | error error => simp [report, fails]
  | ok watch =>
    obtain ⟨seen, result⟩ := watch
    cases result <;> simp [report, fails, Except.isOk, Except.toBool]

/-- Something is wrong in the reports of turns exactly when one of them fails. -/
theorem reports_errors_eq_nil_iff (plan : Plan) (turns : List Turn) :
    (reports plan turns).errors = [] ↔ ∀ turn ∈ turns, turn.fails = false := by
  simp [reports, List.flatMap_eq_nil_iff, errors_eq_nil_iff]

/-- In turns, exactly their pods are handed over. -/
theorem submissions_turns (token : Token) (ns : String) (turns : List Turn) :
    submissions (turns.flatMap (history token ns)) = turns.map (·.pod) := by
  induction turns with
  | nil => rfl
  | cons turn rest ih =>
    obtain ⟨pod, outcome⟩ := turn
    rw [List.flatMap_cons, submissions, List.filterMap_append]
    cases outcome with
    | error error => exact congrArg (pod :: ·) ih
    | ok watch => exact congrArg (pod :: ·) ih

/-- The failures in turns are the turns that fail, whatever without failures comes later. -/
theorem failures_turns (token : Token) (ns : String) (turns : List Turn)
    {later : History Cluster} (quiet : failures later = []) :
    failures (turns.flatMap (history token ns) ++ later) = turns.map fails := by
  induction turns with
  | nil => exact quiet
  | cons turn rest ih =>
    obtain ⟨pod, outcome⟩ := turn
    rw [List.flatMap_cons, List.append_assoc]
    cases outcome with
    | error error => exact congrArg (true :: ·) ih
    | ok watch =>
      have own : waitFails pod
          (⟨ClusterCall.awaitPod token ns pod.displayName, watch⟩ ::
            (rest.flatMap (history token ns) ++ later)) = !watch.result.isOk := by
        simp [waitFails]
      calc
        _ = waitFails pod _ :: failures (rest.flatMap (history token ns) ++ later) := rfl
        _ = (!watch.result.isOk) :: rest.map fails := by
          rw [ih]
          exact congrArg (· :: _) own

/-- Turns ask for no images. -/
theorem lookups_turns (token : Token) (ns : String) (turns : List Turn) :
    lookups (turns.flatMap (history token ns)) = [] := by
  induction turns with
  | nil => rfl
  | cons turn rest ih =>
    obtain ⟨pod, outcome⟩ := turn
    rw [List.flatMap_cons, lookups, List.filterMap_append]
    cases outcome with
    | error error => exact ih
    | ok watch => exact ih

end Turn

namespace PhaseRun

/-- A pod has one turn. -/
theorem ends_runPod {plan : Plan} {token : Token} {pod : Pod} {history : History Cluster}
    {outcome : Outcome} (ends : (runPod plan token pod).Ends history outcome) :
    ∃ turn : Turn, turn.pod = pod ∧ history = turn.history token plan.ns ∧
      outcome = turn.report plan := by
  simp only [runPod, bind_eq, pure_eq, ends_bind_iff] at ends
  obtain ⟨_, _, answer, rfl, submitted, rest⟩ := ends
  obtain rfl := ends_ask_iff.1 submitted
  cases answer with
  | error error =>
    obtain ⟨rfl, rfl⟩ := ends_done_iff.1 rest
    exact ⟨⟨pod, .error error⟩, rfl, rfl, rfl⟩
  | ok accepted =>
    obtain ⟨_, _, watch, rfl, awaited, ended⟩ := ends_bind_iff.1 rest
    obtain rfl := ends_ask_iff.1 awaited
    obtain ⟨rfl, rfl⟩ := ends_done_iff.1 ended
    exact ⟨⟨pod, .ok watch⟩, rfl, rfl, rfl⟩

/-- Pods have their turns in order: all of them, or those up to the first failure where the first
failure ends the phase. -/
theorem ends_runPods {plan : Plan} {token : Token} {stops : Bool} {pods : List Pod}
    {history : History Cluster} {outcome : Outcome}
    (ends : (runPods plan token stops pods).Ends history outcome) :
    ∃ turns : List Turn, history = turns.flatMap (Turn.history token plan.ns) ∧
      outcome = Turn.reports plan turns ∧
      turns.map (·.pod) =
        if stops then upToFailure pods (turns.map Turn.fails) else pods := by
  induction pods generalizing history outcome with
  | nil =>
    obtain ⟨rfl, rfl⟩ := ends_done_iff.1 ends
    exact ⟨[], rfl, rfl, by simp [upToFailure]⟩
  | cons pod rest ih =>
    simp only [runPods, bind_eq, pure_eq, ends_bind_iff] at ends
    obtain ⟨_, _, first, rfl, own, others⟩ := ends
    obtain ⟨turn, rfl, rfl, rfl⟩ := ends_runPod own
    have verdict := Turn.errors_eq_nil_iff plan turn
    split at others
    · -- The turn failed in a phase that stops, so the pods after this one have no turns.
      rename_i ended
      rw [Bool.and_eq_true, Bool.not_eq_true', List.isEmpty_eq_false_iff] at ended
      have failed : turn.fails = true := by
        rw [← Bool.not_eq_false]
        exact fun well => ended.2 (verdict.2 well)
      obtain ⟨rfl, rfl⟩ := ends_done_iff.1 others
      exact ⟨[turn], by simp, by simp [Turn.reports], by simp [ended.1, upToFailure, failed]⟩
    · rename_i goesOn
      obtain ⟨_, _, last, rfl, later, done⟩ := ends_bind_iff.1 others
      obtain ⟨rfl, rfl⟩ := ends_done_iff.1 done
      obtain ⟨turns, rfl, rfl, order⟩ := ih later
      refine ⟨turn :: turns, by simp, rfl, ?_⟩
      rw [List.map_cons, order]
      cases stops with
      | false => rfl
      | true =>
        have passed : turn.fails = false := by
          apply verdict.1
          simpa using goesOn
        simp [upToFailure, passed]

/-! ## The end of a phase -/

/-- The history of the end of a phase that was not called off, or that was called off and had its
pods deleted with a certain answer. -/
def closingHistory (plan : Plan) (token : Token) :
    Option (Except ClientError Unit) → History Cluster
  | none => [⟨ClusterCall.isCancelled token, false⟩]
  | some deleted =>
    [⟨ClusterCall.isCancelled token, true⟩,
      ⟨ClusterCall.deletePods plan.ns (Access.labels plan.test), deleted⟩]

/-- What is wrong at the end of a phase. -/
def closingErrors (plan : Plan) : Option (Except ClientError Unit) → List RunError
  | none => []
  | some deleted =>
    match ClientError.tolerate .notFound deleted with
    | .ok _ => [.cancelled]
    | .error error => [.deletePods Label.test plan.test error, .cancelled]

/-- At its end a phase asks whether it was called off, and deletes its pods exactly then. -/
theorem ends_cleanUp {plan : Plan} {token : Token} {history : History Cluster}
    {errors : List RunError} (ends : (cleanUp plan token).Ends history errors) :
    ∃ closing, history = closingHistory plan token closing ∧
      errors = closingErrors plan closing := by
  simp only [cleanUp, bind_eq, pure_eq, ends_bind_iff] at ends
  obtain ⟨_, _, cancelled, rfl, asked, rest⟩ := ends
  obtain rfl := ends_ask_iff.1 asked
  cases cancelled with
  | false =>
    obtain ⟨rfl, rfl⟩ := ends_done_iff.1 rest
    exact ⟨none, rfl, rfl⟩
  | true =>
    obtain ⟨_, _, deleted, rfl, answered, done⟩ := ends_bind_iff.1 rest
    obtain rfl := ends_ask_iff.1 answered
    obtain ⟨rfl, rfl⟩ := ends_done_iff.1 done
    exact ⟨some deleted, rfl, rfl⟩

/-- Nothing is wrong at the end of a phase exactly when the phase was not called off. -/
theorem closingErrors_eq_nil_iff (plan : Plan) (closing : Option (Except ClientError Unit)) :
    closingErrors plan closing = [] ↔ closing = none := by
  cases closing with
  | none => simp [closingErrors]
  | some deleted =>
    cases judged : ClientError.tolerate .notFound deleted <;> simp [closingErrors, judged]

/-! ## The whole phase -/

/-- The steps of a phase that are not left out. -/
def stepsToRun (plan : Plan) (failedBefore : Bool) (phase : Phase) : List Step :=
  (phase.steps plan.config).filter fun step => !Batch.isSkipped plan.config failedBefore step

/-- The courses that a phase can take, with its history and its outcome. -/
inductive Course (plan : Plan) (token : Token) (shared : List EnvVar) (failedBefore : Bool)
    (phase : Phase) : History Cluster → Outcome → Prop
  /-- Some step has no pod: the phase ends after the lookups. -/
  | unbuilt {answers : List (Except ClientError String)} {errors : List RunError}
      (fits : answers.length =
        ((stepsToRun plan failedBefore phase).flatMap Batch.images).length)
      (lacking : Batch.podsOf? plan shared (stepsToRun plan failedBefore phase) answers = none)
      (wrong : errors ≠ []) :
      Course plan token shared failedBefore phase
        (Batch.lookupHistory plan.ns
          ((stepsToRun plan failedBefore phase).flatMap Batch.images) answers)
        { errors }
  /-- All steps have pods: the pods have their turns, and the phase comes to its end. -/
  | ran {answers : List (Except ClientError String)} {pods : List Pod} (turns : List Turn)
      (closing : Option (Except ClientError Unit))
      (fits : answers.length =
        ((stepsToRun plan failedBefore phase).flatMap Batch.images).length)
      (built : Batch.podsOf? plan shared (stepsToRun plan failedBefore phase) answers = some pods)
      (order : turns.map (·.pod) =
        if phase.stopsAtFailure then upToFailure pods (turns.map Turn.fails) else pods) :
      Course plan token shared failedBefore phase
        (Batch.lookupHistory plan.ns
            ((stepsToRun plan failedBefore phase).flatMap Batch.images) answers ++
          turns.flatMap (Turn.history token plan.ns) ++ closingHistory plan token closing)
        (Turn.reports plan turns ++ { errors := closingErrors plan closing })

/-- Whatever the cluster answers, a phase takes one of its courses. -/
theorem course {plan : Plan} {token : Token} {shared : List EnvVar} {failedBefore : Bool}
    {phase : Phase} {history : History Cluster} {outcome : Outcome}
    (ends : (run plan token shared failedBefore phase).Ends history outcome) :
    Course plan token shared failedBefore phase history outcome := by
  simp only [run, bind_eq, pure_eq, ends_bind_iff] at ends
  obtain ⟨_, _, batch, rfl, building, rest⟩ := ends
  obtain ⟨answers, fits, rfl, rfl⟩ := Batch.ends_build building
  rcases Batch.foldr_stepResults plan shared (stepsToRun plan failedBefore phase) answers with
    ⟨pods, built, made⟩ | ⟨lacking, wrong⟩
  · rw [stepsToRun] at made
    rw [made] at rest
    obtain ⟨_, _, ran, rfl, turned, ended⟩ := ends_bind_iff.1 rest
    obtain ⟨_, _, errors, rfl, closed, done⟩ := ends_bind_iff.1 ended
    obtain ⟨turns, rfl, rfl, order⟩ := ends_runPods turned
    obtain ⟨closing, rfl, rfl⟩ := ends_cleanUp closed
    obtain ⟨rfl, rfl⟩ := ends_done_iff.1 done
    rw [List.append_nil, ← List.append_assoc]
    exact .ran turns closing fits built order
  · rw [stepsToRun] at wrong
    rw [if_neg (by simpa using wrong)] at rest
    obtain ⟨rfl, rfl⟩ := ends_done_iff.1 rest
    rw [List.append_nil]
    exact .unbuilt fits lacking wrong

/-- What a phase may ask for. -/
inductive Asks (plan : Plan) (token : Token) : ClusterCall → Prop
  /-- From where an image is pulled. -/
  | lookup (image : ImageTag) : Asks plan token (.pullSpec plan.ns image)
  /-- A pod. -/
  | submission (pod : Pod) : Asks plan token (.submitPod pod)
  /-- The end of a pod, unless the phase is called off. -/
  | wait (name : String) : Asks plan token (.awaitPod token plan.ns name)
  /-- Whether the phase is called off. -/
  | look : Asks plan token (.isCancelled token)
  /-- The deletion of the test's pods. -/
  | deletion : Asks plan token (.deletePods plan.ns (Access.labels plan.test))

/-- A phase asks for nothing else, and hands on no token but its own. -/
theorem Course.asks {plan : Plan} {token : Token} {shared : List EnvVar} {failedBefore : Bool}
    {phase : Phase} {history : History Cluster} {outcome : Outcome}
    (course : Course plan token shared failedBefore phase history outcome) :
    ∀ event ∈ history, Asks plan token event.1 := by
  have looking : ∀ images answers, ∀ event ∈ Batch.lookupHistory plan.ns images answers,
      Asks plan token event.1 := by
    intro images answers event member
    obtain ⟨lookup, _, rfl⟩ := List.mem_map.1 member
    exact .lookup _
  cases course with
  | unbuilt => exact looking _ _
  | ran turns closing =>
    simp only [List.forall_mem_append]
    refine ⟨⟨looking _ _, ?_⟩, ?_⟩
    · intro event member
      obtain ⟨⟨pod, outcome⟩, _, member⟩ := List.mem_flatMap.1 member
      cases outcome with
      | error error =>
        obtain rfl := List.mem_singleton.1 member
        exact .submission pod
      | ok watch =>
        rcases List.mem_cons.1 member with rfl | member
        · exact .submission pod
        · obtain rfl := List.mem_singleton.1 member
          exact .wait _
    · intro event member
      cases closing with
      | none =>
        obtain rfl := List.mem_singleton.1 member
        exact .look
      | some deleted =>
        rcases List.mem_cons.1 member with rfl | member
        · exact .look
        · obtain rfl := List.mem_singleton.1 member
          exact .deletion

end PhaseRun

end StagedTest
