import StagedTest.Cluster
import StagedTest.Conventions
import StagedTest.Plan
import StagedTest.RunError

/-!
# The shared environment

The variables that every step of a test gets: what was leased, and for a test with a cluster
profile the values that come with it, and the optional operator where there is one. The secret
of the profile has to be there. The first thing that is missing ends the run.
-/
namespace StagedTest

/-- A program that may end early because the run has failed. -/
abbrev Attempt (α : Type) : Type := ExceptT RunError (Program Cluster) α

namespace Attempt

/-- Goes on with the answer of a call, or fails. -/
def orFail {α : Type} (blame : ClientError → RunError)
    (program : Program Cluster (Except ClientError α)) : Attempt α :=
  ExceptT.mk (program.bind fun
    | .ok value => .done (.ok value)
    | .error error => .done (.error (blame error)))

/-- Goes on with a result, or fails. -/
def ofExcept {α : Type} : Except RunError α → Attempt α
  | .ok value => pure value
  | .error error => throw error

end Attempt

namespace SharedEnvironment

/-- The variable of a parameter. -/
def resolve (parameters : Parameters) (name : String) : Except RunError EnvVar :=
  match parameters.get name with
  | .ok value => .ok (.of name value)
  | .error undefinedParameter => .error (.parameter name undefinedParameter)

/-- The variables of several parameters, in order. -/
def resolveAll (parameters : Parameters) : List String → Except RunError (List EnvVar)
  | [] => .ok []
  | name :: rest => do
    let variableValue ← resolve parameters name
    let rest ← resolveAll parameters rest
    return variableValue :: rest

/-- A variable of the optional operator that has to have a value. -/
def operatorVariable (parameters : Parameters) (name : String) : Except RunError EnvVar :=
  match parameters.get name with
  | .ok value => .ok (.of name value)
  | .error undefinedParameter => .error (.optionalOperator undefinedParameter)

/-- A variable of the optional operator that may be without value. -/
def optionalVariable (parameters : Parameters) (name : String) : List EnvVar :=
  (parameters.get? name).toList.map (.of name)

/-- The variables of the optional operator: none without an index image, and with one also the
package and the channel. -/
def operator (parameters : Parameters) : Except RunError (List EnvVar) := do
  if parameters.has Variable.operatorIndex then
    let index ← operatorVariable parameters Variable.operatorIndex
    let package ← operatorVariable parameters Variable.operatorPackage
    let channel ← operatorVariable parameters Variable.operatorChannel
    return [index, package, channel] ++
      optionalVariable parameters Variable.operatorInstallNamespace ++
      optionalVariable parameters Variable.operatorTargetNamespaces
  else return []

/-- The variables of the cluster profile and of the optional operator. -/
def ofProfile (parameters : Parameters) : Except RunError (List EnvVar) := do
  let profile ← resolveAll parameters Variable.ofProfile
  let operator ← operator parameters
  return profile ++ operator

/-- The variables that every step of a test gets. -/
def assemble (plan : Plan) : Attempt (List EnvVar) := do
  let leases ← Attempt.ofExcept
    (resolveAll plan.parameters (plan.config.leases.map (·.variableName)))
  match plan.config.clusterProfile with
  | none => return leases
  | some _ =>
    let secret := Naming.profileSecret plan.test
    let _ ← Attempt.orFail (.profileSecret secret) (Cluster.readSecret plan.ns secret)
    let profile ← Attempt.ofExcept (ofProfile plan.parameters)
    return leases ++ profile

end SharedEnvironment

end StagedTest
