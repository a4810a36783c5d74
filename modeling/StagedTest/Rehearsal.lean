import StagedTest.Cluster
import StagedTest.Store

/-!
# Rehearsals

A rehearsal answers a run from a store, by a script: calls that fail, and for each pod how it
ends each time that it is watched. All that is asked of the store is written down, so that a run
can be judged without a cluster.
-/
namespace StagedTest

/-- A scripted failure of calls to the store. -/
structure ScriptedFailure where
  /-- The method of the calls. -/
  method : String
  /-- The kind of object that the calls are about. -/
  what : String
  /-- The name in the calls, or a star for all names. -/
  name : String
  /-- The failure, given what the call was. -/
  error : String → String → String → ClientError
  /-- How many matching calls go well first. -/
  after : Nat := 0
  /-- How many matching calls fail then; all of them if nothing is said. -/
  times : Option Nat := none
  /-- How many matching calls there were. -/
  count : Nat := 0

namespace ScriptedFailure

/-- Whether a call matches. -/
def concerns (failure : ScriptedFailure) (method what name : String) : Bool :=
  failure.method == method && failure.what == what &&
    (failure.name == "*" || failure.name == name)

/-- Whether the matching call that was counted last fails. -/
def fires (failure : ScriptedFailure) : Bool :=
  failure.after < failure.count &&
    (failure.times.all fun times => failure.count ≤ failure.after + times)

end ScriptedFailure

/-- How a pod ends. -/
inductive PodEnd
  /-- All containers end well. -/
  | succeeded
  /-- The containers fail. -/
  | failed
  /-- The containers run on. -/
  | interrupted
deriving DecidableEq, Inhabited, Repr

/-- What happens when a pod is watched. -/
structure PodScript where
  /-- How the pod ends. -/
  finish : PodEnd := .succeeded
  /-- The pod's status, in place of the one that goes with its end. -/
  status : Option PodStatus := none
  /-- Whether the pod is seen without what it runs. -/
  withoutSpec : Bool := false
  /-- Whether the wait is called off. -/
  cancelsWait : Bool := false
  /-- Whether the caller calls the run off. -/
  cancelsCaller : Bool := false
  /-- What is said of a failed pod, in place of what its status says. -/
  report : Option String := none
  /-- Whether the wait ends without a pod when it is called off. -/
  withoutPod : Bool := false
deriving Inhabited

/-- A call to the store, as it is written down. -/
structure CallRecord where
  /-- The method. -/
  method : String
  /-- The kind of object. -/
  kind : String
  /-- The namespace. -/
  ns : String
  /-- The name of the object. -/
  name : String
  /-- What went wrong, if something did. -/
  failure : Option ClientError.Kind
  /-- What was sent. -/
  body : Option Value

/-- A store with a script, and what was written down. -/
structure Rehearsal where
  /-- The objects. -/
  store : Store := {}
  /-- From where images are pulled. -/
  images : StringMap String := ∅
  /-- The calls that fail. -/
  failures : List ScriptedFailure := []
  /-- What happens when pods are watched, time after time. -/
  scripts : StringMap (List PodScript) := ∅
  /-- How often pods were watched. -/
  waits : StringMap Nat := ∅
  /-- Whether the caller has called the run off. -/
  callerCancelled : Bool := false
  /-- Whether the wait of the cleanup was called off. -/
  detachedCancelled : Bool := false
  /-- What was asked of the store. -/
  calls : List CallRecord := []

namespace Rehearsal

/-- Something that is done in a rehearsal. -/
abbrev Act (α : Type) : Type := StateM Rehearsal α

/-- Counts a call for the failures that it matches, up to the first one that fires. -/
def countCall (method what name : String) :
    List ScriptedFailure → List ScriptedFailure × Option ClientError
  | [] => ([], none)
  | failure :: rest =>
    if failure.concerns method what name then
      let failure := { failure with count := failure.count + 1 }
      if failure.fires then (failure :: rest, some (failure.error method what name))
      else
        let (rest, error) := countCall method what name rest
        (failure :: rest, error)
    else
      let (rest, error) := countCall method what name rest
      (failure :: rest, error)

/-- What comes of a call and of the store: nothing but a failure when the call fails. -/
def outcome {α : Type} (scripted : Option ClientError)
    (effect : Store → Except ClientError (α × Store)) (store : Store) :
    Except ClientError α × Store :=
  match scripted with
  | some error => (.error error, store)
  | none =>
    match effect store with
    | .ok (value, store) => (.ok value, store)
    | .error error => (.error error, store)

/-- How the failure of a call counts. -/
def failureKind? {α : Type} : Except ClientError α → Option ClientError.Kind
  | .ok _ => none
  | .error error => some error.kind

/-- Makes a call, which the script may let fail, and writes it down. -/
def act {α : Type} (method what recordedKind ns name : String) (body : Option Value)
    (effect : Store → Except ClientError (α × Store)) : Act (Except ClientError α) :=
  fun state =>
    let (failures, scripted) := countCall method what name state.failures
    let (result, store) := outcome scripted effect state.store
    let record :=
      { method, kind := recordedKind, ns, name, failure := failureKind? result, body }
    (result, { state with failures, store, calls := state.calls ++ [record] })

/-- Creates an object. -/
def create (ns : String) (object : Object) : Act (Except ClientError Unit) :=
  let kind := object.kind.name
  act "create" kind kind ns object.displayName (some object.print) fun store =>
    (store.create ns object).map fun store => ((), store)

/-- Reads an object. -/
def read (key : ObjectKey) : Act (Except ClientError Object) :=
  act "get" key.kind.name key.kind.name key.ns key.name none fun store =>
    (store.read key).map fun object => (object, store)

/-- Deletes an object. -/
def delete (key : ObjectKey) : Act (Except ClientError Unit) :=
  act "delete" key.kind.name key.kind.name key.ns key.name none fun store =>
    (store.delete key).map fun store => ((), store)

/-- Deletes the pods that carry all of some labels. -/
def deletePods (ns : String) (labels : StringMap String) : Act (Except ClientError Unit) :=
  let kind := ObjectKind.pod
  act "delete_all_of" kind.name kind.name ns "" (some ((Codec.map .text).print labels)) fun store =>
    .ok ((), store.deleteAll kind ns labels)

/-- What the interface calls a tag in a stream of images. -/
def imageKind : String := "ImageStreamTag"

/-- Finds out from where an image is pulled. -/
def pullSpec (ns : String) (image : ImageTag) : Act (Except ClientError String) := fun state =>
  act "image" "" imageKind ns image.name none (fun store =>
    match state.images.get? image.name with
    | some pullSpec => .ok (pullSpec, store)
    | none => .error (Store.notFound "get" imageKind image.name)) state

/-- Creates a pod. A pod that is already there is deleted first, and may be gone by then. -/
def submitPod (pod : Pod) : Act (Except ClientError Unit) := do
  let ns := pod.metadata.ns.getD ""
  match ← create ns (.pod pod) with
  | .error error =>
    if error.kind = .alreadyExists then
      match ClientError.tolerate .notFound (← delete ⟨.pod, ns, pod.displayName⟩) with
      | .ok _ => create ns (.pod pod)
      | .error error => return .error error
    else return .error error
  | .ok () => return .ok ()

/-- The script of the present watching of a pod: the scripts are taken in order, and the last
one again and again. -/
def nextScript (name : String) : Act PodScript := fun state =>
  let turn := (state.waits.get? name).getD 0
  let scripts := (state.scripts.get? name).getD []
  ((scripts[turn]? <|> scripts.getLast?).getD {},
    { state with waits := state.waits.insert name (turn + 1) })

/-- The status of a container that has ended. -/
def ended (exitCode : Int32) (container : Container) : ContainerStatus :=
  { name := container.name, state := some { terminated := some { exitCode } } }

/-- The status of a container that runs. -/
def stillRunning (container : Container) : ContainerStatus :=
  { name := container.name, state := some { running := some {} } }

/-- The status of a pod that ends in a certain way. -/
def endStatus (spec : PodSpec) (finish : PodEnd) : PodStatus :=
  { phase := some (match finish with
      | .succeeded => PodStatus.succeeded
      | .failed => PodStatus.failed
      | .interrupted => PodStatus.running)
    initContainerStatuses := some ((spec.initContainers.getD []).map (ended 0))
    containerStatuses := some (spec.containers.map (match finish with
      | .succeeded => ended 0
      | .failed => ended 1
      | .interrupted => stillRunning)) }

/-- The pod as it is seen when it ends. -/
def observed (pod : Pod) (script : PodScript) : Pod :=
  { pod with
    spec := if script.withoutSpec then none else pod.spec
    status := some (script.status.getD (endStatus (pod.spec.getD {}) script.finish)) }

/-- How the wait for a pod ends that is seen in a certain state. -/
def waitResult (pod : Pod) (script : PodScript) : Except WaitError Pod :=
  match script.finish with
  | .succeeded => .ok pod
  | .failed => .error (.podFailed pod (script.report.getD pod.failureMessage))
  | .interrupted => .error (.cancelled (if script.withoutPod then none else some pod))

/-- Puts a pod as it was seen into the store, and calls off what the script calls off. -/
def finishPod (token : Token) (ns name : String) (pod : Pod) (script : PodScript) : Act Unit :=
  modify fun state =>
    { state with
      store := state.store.put ⟨.pod, ns, name⟩ (.pod pod)
      callerCancelled := state.callerCancelled || script.cancelsCaller ||
        (script.cancelsWait && token == .caller)
      detachedCancelled := state.detachedCancelled ||
        (script.cancelsWait && token == .detached) }

/-- Watches a pod until it ends as its script says. -/
def awaitPod (token : Token) (ns name : String) : Act Watch := do
  match ← read ⟨.pod, ns, name⟩ with
  | .error error => return { seen := [], result := .error (.unobservable error) }
  | .ok object =>
    let script ← nextScript name
    let pod := observed (object.pod?.getD {}) script
    finishPod token ns name pod script
    return { seen := [pod], result := waitResult pod script }

/-- Reads a secret. -/
def readSecret (ns name : String) : Act (Except ClientError Secret) := do
  let result ← read ⟨.secret, ns, name⟩
  return result.map fun object => object.secret?.getD {}

/-- Answers a run. -/
def handler : Handler Cluster Rehearsal
  | .create ns object => create ns object
  | .readSecret ns name => readSecret ns name
  | .deleteSecret ns name => delete ⟨.secret, ns, name⟩
  | .deletePods ns labels => deletePods ns labels
  | .submitPod pod => submitPod pod
  | .awaitPod token ns name => awaitPod token ns name
  | .pullSpec ns image => pullSpec ns image
  | .isCancelled .caller => fun state => (state.callerCancelled, state)
  | .isCancelled .detached => fun state => (state.detachedCancelled, state)

end Rehearsal

end StagedTest
