import StagedTest.Batch

/-!
# Running a phase

The pods of a phase run one at a time, in the order of their steps. The record of each pod's
containers is kept whatever comes of the pod. When the phase was called off, the pods of the test
are deleted at its end.
-/
namespace StagedTest.PhaseRun

/-- What was seen and what went wrong, in the order in which it happened. -/
structure Outcome where
  /-- The ends of containers. -/
  cases : List TestCase := []
  /-- What went wrong. -/
  errors : List RunError := []

/-- One outcome after the other. -/
def Outcome.append (first second : Outcome) : Outcome :=
  ⟨first.cases ++ second.cases, first.errors ++ second.errors⟩

instance : Append Outcome := ⟨Outcome.append⟩

/-- What the test cases of a pod begin with. -/
def lead (plan : Plan) (pod : String) : String :=
  plan.config.description ++ " - " ++ pod ++ " "

/-- Where people can read about the step of a pod. -/
def stepLink (plan : Plan) (pod : String) : String :=
  "Link to step on registry info site: " ++ Registry.steps ++ "/reference/" ++
    Naming.stepOfPod plan.test pod

/-- Where people can read about the job of a test. -/
def jobLink (plan : Plan) : String :=
  let source := plan.build.metadata
  "Link to job on registry info site: " ++ Registry.steps ++ "/job?org=" ++ source.org ++
    "&repo=" ++ source.repo ++ "&branch=" ++ source.branch ++ "&test=" ++ plan.test ++
    (if source.variant = "" then "" else "&variant=" ++ source.variant)

/-- Where people can read about a pod that did not succeed. -/
def links (plan : Plan) (pod : String) : String := stepLink plan pod ++ "\n" ++ jobLink plan

/-- What became of a pod that did not succeed: it ran too long, or it failed. The time that it
had is that of the pod as it was last seen, or else that of the pod as it was submitted. -/
def status (submitted : Pod) (error : WaitError) : String :=
  match error.pod?.filter (·.isDeadlineExceeded) with
  | none => "failed"
  | some observed =>
    "exceeded the configured timeout" ++
      match observed.activeDeadlineSeconds? <|> submitted.activeDeadlineSeconds? with
      | some seconds => s!" activeDeadlineSeconds={seconds}"
      | none => ""

/-- The failure of a pod that did not succeed. -/
def podFailure (plan : Plan) (pod : Pod) (error : WaitError) : RunError :=
  .podFailed plan.test pod.displayName (status pod error) (links plan pod.displayName) error

/-- Runs a pod. -/
def runPod (plan : Plan) (token : Token) (pod : Pod) : Program Cluster Outcome := do
  match ← Cluster.submitPod pod with
  | .error error => return { errors := [.createPod pod.displayName error] }
  | .ok () =>
    let watch ← Cluster.awaitPod token plan.ns pod.displayName
    return {
      cases := watch.record.testCases (lead plan pod.displayName)
      errors := match watch.result with
        | .ok _ => []
        | .error error => [podFailure plan pod error] }

/-- Runs pods, in order, up to the first failure or to the end. -/
def runPods (plan : Plan) (token : Token) (stopsAtFailure : Bool) :
    List Pod → Program Cluster Outcome
  | [] => .done {}
  | pod :: rest => do
    let outcome ← runPod plan token pod
    if stopsAtFailure && !outcome.errors.isEmpty then return outcome
    else return outcome ++ (← runPods plan token stopsAtFailure rest)

/-- Deletes the pods of a test when its phase was called off. -/
def cleanUp (plan : Plan) (token : Token) : Program Cluster (List RunError) := do
  if ← Cluster.isCancelled token then
    let deleted ← Cluster.deletePods plan.ns (Access.labels plan.test)
    return match ClientError.tolerate .notFound deleted with
      | .ok _ => [.cancelled]
      | .error error => [.deletePods Label.test plan.test error, .cancelled]
  else return []

/-- Runs the steps of a phase. -/
def run (plan : Plan) (token : Token) (shared : List EnvVar) (failedBefore : Bool)
    (phase : Phase) : Program Cluster Outcome := do
  let batch ← Batch.ofPhase plan shared failedBefore phase
  if batch.errors.isEmpty then
    let outcome ← runPods plan token phase.stopsAtFailure batch.pods
    let errors ← cleanUp plan token
    return outcome ++ { errors }
  else return { errors := batch.errors }

end StagedTest.PhaseRun
