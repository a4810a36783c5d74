import StagedTest.Parameters
import StagedTest.Phase
import StagedTest.WaitError

/-!
# Failures of a run

A run fails with a tree of causes: a failed phase holds what failed in it, and several failures
at once are held together. The tree is read in three ways: as one wording, as the list of its
failures without the holding together, and as an answer to whether anything in it was called off.
-/
namespace StagedTest

/-- Why a run fails. -/
inductive RunError
  /-- A value from outside is missing. -/
  | parameter (name : String) (source : UndefinedParameter)
  /-- The secret of the cluster profile cannot be read. -/
  | profileSecret (secret : String) (source : ClientError)
  /-- The optional operator is not fully described. -/
  | optionalOperator (source : UndefinedParameter)
  /-- The shared secret of an earlier run cannot be deleted. -/
  | deleteSecret (name : String) (source : ClientError)
  /-- The shared secret cannot be created. -/
  | createSecret (name : String) (source : ClientError)
  /-- A secret that a step needs cannot be read. -/
  | readCredential (ns name : String) (source : ClientError)
  /-- The copy of a secret cannot be created. -/
  | createCredential (name : String) (source : ClientError)
  /-- Two secrets would have the same copy. -/
  | mirrorNameCollision (name first second : String)
  /-- An object of the test's access cannot be created. -/
  | createAccess (what name : String) (source : ClientError)
  /-- What a step asks of the machine is not a quantity. -/
  | invalidQuantity (step resource quantity : String)
  /-- A parameter of a step has no value. -/
  | missingParameter (step parameter : String)
  /-- An image that a step depends on is not known. -/
  | imagePullSpec (image step : String) (source : ClientError)
  /-- The pod of a step cannot be created. -/
  | createPod (pod : String) (source : ClientError)
  /-- The pod of a step did not succeed. -/
  | podFailed (test pod status links : String) (source : WaitError)
  /-- The pods of a cancelled phase cannot be deleted. -/
  | deletePods (label value : String) (source : ClientError)
  /-- The run was called off. -/
  | cancelled
  /-- A phase failed. -/
  | phaseFailed (test : String) (phase : Phase) (source : RunError)
  /-- Several failures at once. -/
  | aggregate (errors : List RunError)
deriving Inhabited

namespace RunError

mutual

/-- The wording of a failure. -/
def message : RunError → String
  | .parameter name source => s!"could not resolve parameter '{name}': {source.message}"
  | .profileSecret secret source => s!"could not find secret '{secret}': {source.message}"
  | .optionalOperator source =>
    "invalid optional operator configuration: " ++ source.message
  | .deleteSecret name source => s!"cannot delete secret '{name}': {source.message}"
  | .createSecret name source => s!"failed to create secret '{name}': {source.message}"
  | .readCredential ns name source =>
    s!"could not read source credential '{ns}/{name}': {source.message}"
  | .createCredential name source =>
    s!"could not create source credential '{name}': {source.message}"
  | .mirrorNameCollision name first second =>
    s!"credentials '{first}' and '{second}' would both be mirrored as secret '{name}'"
  | .createAccess what name source =>
    s!"failed to create RBAC object {what} '{name}': {source.message}"
  | .invalidQuantity step resource quantity =>
    s!"invalid {resource} quantity '{quantity}' for step '{step}'"
  | .missingParameter step name =>
    s!"step '{step}' has no value for parameter '{name}'"
  | .imagePullSpec image step source =>
    s!"could not determine image pull spec for image {image} on step {step}: {source.message}"
  | .createPod pod source => s!"failed to create or restart '{pod}' pod: {source.message}"
  | .podFailed test pod status links source =>
    "\"" ++ test ++ "\" pod \"" ++ pod ++ "\" " ++ status ++ ": " ++ source.message ++ "\n" ++ links
  | .deletePods label value source =>
    s!"failed to delete pods with label {label}={value}: {source.message}"
  | .cancelled => "cancelled"
  | .phaseFailed test phase source =>
    "\"" ++ test ++ "\" " ++ phase.name ++ " steps failed: " ++ message source
  | .aggregate errors => "[" ++ ", ".intercalate (messages errors) ++ "]"

/-- The wordings of several failures. -/
def messages : List RunError → List String
  | [] => []
  | error :: rest => message error :: messages rest

end

/-- The wording of a failure and of everything underneath it. Of several failures at once
nothing lies underneath. -/
def chain (error : RunError) : List String :=
  error.message ::
    match error with
    | .parameter _ source | .optionalOperator source => [source.message]
    | .profileSecret _ source | .deleteSecret _ source | .createSecret _ source
    | .readCredential _ _ source | .createCredential _ source | .createAccess _ _ source
    | .imagePullSpec _ _ source | .createPod _ source | .deletePods _ _ source => source.chain
    | .podFailed _ _ _ _ source => source.chain
    | .phaseFailed _ _ source => source.chain
    | .mirrorNameCollision .. | .invalidQuantity .. | .missingParameter .. | .cancelled
    | .aggregate _ => []

mutual

/-- Whether a failure, or any part of it, was called off. -/
def isCancelled : RunError → Bool
  | .cancelled => true
  | .phaseFailed _ _ source => isCancelled source
  | .aggregate errors => anyCancelled errors
  | _ => false

/-- Whether any of several failures was called off. -/
def anyCancelled : List RunError → Bool
  | [] => false
  | error :: rest => isCancelled error || anyCancelled rest

end

mutual

/-- The failures that are held together in a failure; others stand for themselves. -/
def leaves : RunError → List RunError
  | .aggregate errors => leavesOfAll errors
  | error => [error]

/-- The failures that are held together in several failures. -/
def leavesOfAll : List RunError → List RunError
  | [] => []
  | error :: rest => leaves error ++ leavesOfAll rest

end

/-- The result of what went wrong: none is success, one stands for itself, and several are held
together. -/
def collect : List RunError → Except RunError Unit
  | [] => .ok ()
  | [error] => .error error
  | errors => .error (.aggregate errors)

end RunError

end StagedTest
