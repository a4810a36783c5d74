import StagedTest.PhaseRun
import StagedTest.Provision

/-!
# Runs

A run provides what the steps rely on, and then runs the phases: preparation, the test if the
preparation went well, and always the cleanup, which the caller cannot call off. What can be seen
of a test while it runs and between its runs is its progress.
-/
namespace StagedTest

/-- What can be seen of a test while it runs and between its runs. -/
structure Progress where
  /-- How far each phase has come in the present run, or came in the last one. -/
  phase : Phase → PhaseState := fun _ => .notStarted
  /-- The ends of containers in all runs so far. -/
  cases : List TestCase := []

namespace Progress

/-- The progress of a test that never ran. -/
def initial : Progress := {}

/-- The progress at the beginning of another run. -/
def restarted (progress : Progress) : Progress := { progress with phase := fun _ => .notStarted }

/-- Sets the state of a phase. -/
def setPhase (progress : Progress) (phase : Phase) (state : PhaseState) : Progress :=
  { progress with phase := fun other => if other = phase then state else progress.phase other }

/-- Adds the ends of containers. -/
def addCases (progress : Progress) (cases : List TestCase) : Progress :=
  { progress with cases := progress.cases ++ cases }

end Progress

namespace Plan

/-- The state of a phase that has ended. -/
def endState : Except RunError Unit → PhaseState
  | .ok () => .succeeded
  | .error _ => .failed

/-- The failure of a phase as the failures of the run list it. -/
def phaseErrors (plan : Plan) (phase : Phase) : Except RunError Unit → List RunError
  | .ok () => []
  | .error error => [.phaseFailed plan.test phase error]

/-- Runs a phase: gives the progress at its end, and its failure if it failed. -/
def runPhase (plan : Plan) (token : Token) (shared : List EnvVar) (failedBefore : Bool)
    (phase : Phase) (progress : Progress) : Program Cluster (Progress × List RunError) := do
  let progress := progress.setPhase phase .running
  let outcome ← PhaseRun.run plan token shared failedBefore phase
  let result := RunError.collect outcome.errors
  return ((progress.addCases outcome.cases).setPhase phase (endState result),
    plan.phaseErrors phase result)

/-- Runs the preparation and, if it went well, the test. -/
def runBeforeCleanup (plan : Plan) (shared : List EnvVar) (progress : Progress) :
    Program Cluster (Progress × List RunError) := do
  let (progress, errors) ← plan.runPhase .caller shared false .pre progress
  if errors.isEmpty then plan.runPhase .caller shared false .test progress
  else return (progress, errors)

/-- Runs all phases. -/
def runPhases (plan : Plan) (shared : List EnvVar) (progress : Progress) :
    Program Cluster (Progress × Except RunError Unit) := do
  let (progress, errors) ← plan.runBeforeCleanup shared progress
  let (progress, cleanup) ← plan.runPhase .detached shared (!errors.isEmpty) .post progress
  return (progress, RunError.collect (errors ++ cleanup))

/-- Runs a test once. -/
def run (plan : Plan) (progress : Progress) :
    Program Cluster (Progress × Except RunError Unit) := do
  let progress := progress.restarted
  match ← (Provision.all plan).run with
  | .ok shared => plan.runPhases shared progress
  | .error error => return (progress, .error error)

end Plan

end StagedTest
