import StagedTest.Client.Restart

/-!
# Watching pods

A pod is looked at again and again until it has ended, the wait is called off, or a look fails.
What was seen last is written down when the pod has ended and when the wait is called off.
-/
namespace StagedTest.Client

/-- A wait that was called off, with the pod as it was last seen. -/
def calledOff (last : Option Pod) : Watch :=
  { seen := last.toList, result := .error (.cancelled last) }

/-- What came of a watch, if the pod that was just seen has ended. -/
def ended? (pod : Pod) : Option Watch :=
  if pod.isSucceeded then some { seen := [pod], result := .ok pod }
  else if pod.isFailed then
    some { seen := [pod], result := .error (.podFailed pod pod.failureMessage) }
  else none

/-- Looks at a pod until it has ended. The number of looks is bounded: a watch that has none left
counts as called off, and how it ends before that does not depend on the bound
(`ends_awaitPod_iff`). -/
def watch (token : Token) (ns name : String) : Nat → Option Pod → Program Transport Watch
  | 0, last => .done (calledOff last)
  | looks + 1, last => do
    if ← Transport.isCancelled token then return calledOff last
    else
      match ← readPod ns name with
      | .error error => return { seen := [], result := .error (.unobservable error) }
      | .ok pod =>
        match ended? pod with
        | some result => return result
        | none =>
          Transport.pauseUnlessCancelled token pollInterval
          watch token ns name looks (some pod)

/-- How many times a pod is looked at before a watch is given up: some sixty years of looks. A wait
that is over earlier has been decided by what it saw (`decided_of_ends`). -/
def patience : Nat := 1000000000

/-- Watches a pod until it has ended or the wait is called off. -/
def awaitPod (token : Token) (ns name : String) : Program Transport Watch :=
  watch token ns name patience none

/-- Answers what a run asks of the cluster. -/
def serve : (asked : ClusterCall) → Program Transport asked.Answer
  | .create ns object => do return (← create ns object).map fun _ => ()
  | .readSecret ns name => readSecret ns name
  | .deleteSecret ns name => delete .secret ns name
  | .deletePods ns labels => deleteAll .pod ns labels
  | .submitPod pod => do return (← createOrRestart pod).map fun _ => ()
  | .awaitPod token ns name => awaitPod token ns name
  | .pullSpec ns image => pullSpec ns image
  | .isCancelled token => Transport.isCancelled token

end StagedTest.Client
