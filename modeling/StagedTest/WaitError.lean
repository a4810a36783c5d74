import StagedTest.ClientError
import StagedTest.Pod

/-!
# Ends of a wait

Waiting for a pod ends well when the pod succeeds. Otherwise the wait was called off, the pod
failed, or the pod could not be looked at.
-/
namespace StagedTest

/-- How waiting for a pod ends, other than with the pod's success. -/
inductive WaitError
  /-- The wait was called off, with the pod as it was last seen. -/
  | cancelled (pod : Option Pod)
  /-- The pod failed. -/
  | podFailed (pod : Pod) (report : String)
  /-- The pod could not be looked at. -/
  | unobservable (source : ClientError)
deriving Inhabited

namespace WaitError

/-- The pod as it was last seen. -/
def pod? : WaitError → Option Pod
  | .cancelled pod => pod
  | .podFailed pod _ => some pod
  | .unobservable _ => none

/-- The wording of an end. -/
def message : WaitError → String
  | .cancelled _ => "the wait was cancelled"
  | .podFailed _ report => report
  | .unobservable source => "unable to observe pod: " ++ source.message

/-- The wording of an end and of everything underneath it. -/
def chain (error : WaitError) : List String :=
  error.message ::
    match error with
    | .unobservable source => source.chain
    | .cancelled _ | .podFailed _ _ => []

end WaitError

end StagedTest
