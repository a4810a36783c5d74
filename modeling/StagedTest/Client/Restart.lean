import StagedTest.Client

/-!
# Restarting pods

A pod that is left over from an earlier run is deleted, and created again as soon as it is gone.
Whether it is gone is asked again and again, but not for ever.
-/
namespace StagedTest.Client

/-- How long to wait before a pod is looked at again. -/
def pollInterval : Nat := 2000

/-- How long a deleted pod has to go away. -/
def deletionTimeout : Nat := 300000

/-- Whether a look at a pod says that there is none. -/
def isGone : Except ClientError Pod → Bool
  | .ok _ => false
  | .error error => error.kind == .notFound

/-- Looks at a pod, unless a deadline passes first. -/
def lookBefore (deadline : Nat) (ns name : String) :
    Program Transport (Option (Except ClientError Pod)) := do
  let receivePod := receive "get" ObjectKind.pod.name name Pod.codec.decode
  match readRequest (ObjectKind.pod.path ns) name with
  | .ok request => return (← Transport.exchangeBefore deadline request).map receivePod
  | .error failure => return some (receivePod (.error failure))

/-- Looks whether a pod is gone, again and again up to a deadline. As each look but the first one
comes after a pause, the number of looks that fit is known beforehand. -/
def awaitGone (deadline : Nat) (ns name : String) :
    Nat → Program Transport (Except ClientError Unit)
  | 0 => .done (.error (.deletionTimeout ObjectKind.pod.name name))
  | looks + 1 => do
    match ← lookBefore deadline ns name with
    | none => return .error (.deletionTimeout ObjectKind.pod.name name)
    | some seen =>
      if isGone seen then return .ok ()
      else if ← Transport.pauseBefore deadline pollInterval then
        awaitGone deadline ns name looks
      else return .error (.deletionTimeout ObjectKind.pod.name name)

/-- How many looks fit into the time that a deleted pod has. -/
def greatestLooks : Nat := deletionTimeout / pollInterval + 1

/-- Waits until a deleted pod is gone. -/
def awaitDeletion (ns name : String) : Program Transport (Except ClientError Unit) := do
  let start ← Transport.now
  awaitGone (start + deletionTimeout) ns name greatestLooks

/-- Creates a pod, in place of one that is left over from an earlier run. -/
def createOrRestart (pod : Pod) : Program Transport (Except ClientError Object) := do
  let ns := pod.metadata.ns.getD ""
  match ← create ns (.pod pod) with
  | .ok created => return .ok created
  | .error error =>
    if error.kind = .alreadyExists then
      match ClientError.tolerate .notFound (← delete .pod ns pod.displayName) with
      | .error error => return .error error
      | .ok _ =>
        match ← awaitDeletion ns pod.displayName with
        | .error error => return .error error
        | .ok () => create ns (.pod pod)
    else return .error error

end StagedTest.Client
