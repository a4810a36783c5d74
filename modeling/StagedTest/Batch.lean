import StagedTest.Cluster
import StagedTest.Quantity
import StagedTest.RunError
import StagedTest.Workload

/-!
# Batches

The pods of a phase are built before the first of them runs. Building asks the cluster for the
images that steps depend on. A step that cannot be built does not keep the others from being
built, and everything that is wrong with it is reported.
-/
namespace StagedTest

/-- The pods of a phase, and what is wrong with the steps that have none. -/
structure Batch where
  /-- The pods. -/
  pods : List Pod := []
  /-- What is wrong. -/
  errors : List RunError := []

namespace Batch

/-- Adds the result of building one step in front. -/
def add (result : Except (List RunError) Pod) (batch : Batch) : Batch :=
  match result with
  | .ok pod => { batch with pods := pod :: batch.pods }
  | .error errors => { batch with errors := errors ++ batch.errors }

/-- Divides results into values and errors, both in order. -/
def divide {α ε : Type} : List (Except ε α) → List α × List ε
  | [] => ([], [])
  | .ok value :: rest => let (values, errors) := divide rest; (value :: values, errors)
  | .error error :: rest => let (values, errors) := divide rest; (values, error :: errors)

/-- The value of a parameter of a step: the step's own, or else the test's, or else the one that
the parameter comes with. -/
def parameterValue? (config : TestConfiguration) (parameter : StepParameter) : Option String :=
  parameter.value <|> config.environment.get? parameter.name <|> parameter.default

/-- The variable of a parameter of a step. -/
def parameter (config : TestConfiguration) (step : Step) (parameter : StepParameter) :
    Except RunError EnvVar :=
  match parameterValue? config parameter with
  | some value => .ok (.of parameter.name value)
  | none => .error (.missingParameter step.name parameter.name)

/-- The variables of images whose pull specs are asked for one after the other. -/
def dependencies (ns : String) (step : Step) :
    List Dependency → Program Cluster (List (Except RunError EnvVar))
  | [] => .done []
  | dependency :: rest => do
    let answer ← Cluster.pullSpec ns dependency.image
    let results ← dependencies ns step rest
    let result := match answer with
      | .ok pullSpec => .ok (.of dependency.variableName pullSpec)
      | .error error => .error (.imagePullSpec dependency.name step.name error)
    return result :: results

/-- The first amount of a step, in order, that is not a quantity. -/
def invalidQuantity? (step : Step) : Option RunError :=
  (Quantity.firstInvalid? step.resources.requests <|>
      Quantity.firstInvalid? step.resources.limits).map fun (resource, quantity) =>
    .invalidQuantity step.name resource quantity

/-- Builds the pod of a step. -/
def buildPod (plan : Plan) (shared : List EnvVar) (step : Step) :
    Program Cluster (Except (List RunError) Pod) :=
  match invalidQuantity? step with
  | some error => .done (.error [error])
  | none => do
    let (parameters, missing) := divide (step.parameters.map (parameter plan.config step))
    let (dependencies, unknown) := divide (← dependencies plan.ns step step.dependencies)
    return match missing ++ unknown with
      | [] => .ok (Workload.pod { plan, step, shared, parameters, dependencies })
      | errors => .error errors

/-- Whether a step is left out. -/
def isSkipped (config : TestConfiguration) (failedBefore : Bool) (step : Step) : Bool :=
  config.allowsSkip && step.isOptional && !failedBefore

/-- Builds the pods of steps, in order. -/
def build (plan : Plan) (shared : List EnvVar) : List Step → Program Cluster Batch
  | [] => .done {}
  | step :: rest => do
    let result ← buildPod plan shared step
    let batch ← build plan shared rest
    return batch.add result

/-- Builds the pods of a phase. -/
def ofPhase (plan : Plan) (shared : List EnvVar) (failedBefore : Bool) (phase : Phase) :
    Program Cluster Batch :=
  build plan shared ((phase.steps plan.config).filter fun step =>
    !isSkipped plan.config failedBefore step)

end Batch

end StagedTest
