import StagedTest.Proofs.Conduct
import StagedTest.Proofs.MemorySteps

/-!
# Calls one by one

To hand over a pod may take three calls: the pod is created, and where one is left over it is
deleted and the pod is created again. Other runs may come in between. `Direct` is the cluster with
these calls told apart. A run that makes them one by one is the same run, and keeps to the rules of
the run call by call.
-/
namespace StagedTest

/-- A call as it goes to the cluster. -/
inductive DirectCall
  /-- A call of a run. -/
  | ofRun (asked : ClusterCall)
  /-- Delete a pod. -/
  | deletePod (ns name : String)

/-- What the cluster answers. -/
def DirectCall.Answer : DirectCall → Type
  | .ofRun asked => asked.Answer
  | .deletePod .. => Except ClientError Unit

/-- The cluster with calls told apart. -/
abbrev Direct : Interface := ⟨DirectCall, DirectCall.Answer⟩

namespace Program

variable {I J : Interface} {α : Type}

/-- A call that is answered by a program is followed by what is left. -/
theorem through_call (inner : (asked : I.Call) → Program J (I.Answer asked)) (asked : I.Call)
    (next : I.Answer asked → Program I α) :
    (call asked next).through inner =
      (inner asked).bind fun answer => (next answer).through inner := rfl

end Program

namespace Direct

/-- Makes a call of a run. -/
def call (asked : ClusterCall) : Program Direct asked.Answer :=
  Program.ask (I := Direct) (.ofRun asked)

/-- Deletes a pod. -/
def deletePod (ns name : String) : Program Direct (Except ClientError Unit) :=
  Program.ask (I := Direct) (.deletePod ns name)

/-- Creates a pod, after deleting the one that is left over in its place. -/
def submitPod (pod : Pod) : Program Direct (Except ClientError Unit) := do
  let ns := pod.metadata.ns.getD ""
  match ← call (.create ns (.pod pod)) with
  | .error error =>
    if error.kind = .alreadyExists then
      match ClientError.tolerate .notFound (← deletePod ns pod.displayName) with
      | .ok _ => call (.create ns (.pod pod))
      | .error error => return .error error
    else return .error error
  | .ok () => return .ok ()

/-- The calls that a call of a run takes. -/
def parts : (asked : Cluster.Call) → Program Direct (Cluster.Answer asked)
  | .submitPod pod => submitPod pod
  | asked => call asked

/-- Answers calls one by one. -/
def handler : Handler Direct Rehearsal
  | .ofRun asked => Rehearsal.handler asked
  | .deletePod ns name => Rehearsal.delete ⟨.pod, ns, name⟩

/-! ## The same run -/

/-- A call of a run is answered as in a run. -/
theorem run_call (asked : ClusterCall) (state : Rehearsal) :
    (call asked).run handler state = Rehearsal.handler asked state := rfl

/-- A pod is deleted as in a rehearsal. -/
theorem run_deletePod (ns name : String) (state : Rehearsal) :
    (deletePod ns name).run handler state = Rehearsal.delete ⟨.pod, ns, name⟩ state := rfl

/-- A pod is handed over as in a rehearsal. -/
theorem run_submitPod (pod : Pod) (state : Rehearsal) :
    (submitPod pod).run handler state = Rehearsal.submitPod pod state := by
  have created : ∀ state, (call (.create (pod.metadata.ns.getD "") (.pod pod))).run handler state =
      Rehearsal.create (pod.metadata.ns.getD "") (.pod pod) state := run_call _
  simp only [submitPod, Rehearsal.submitPod, Program.bind_eq, Program.run_bind, created,
    Rehearsal.act_bind]
  generalize Rehearsal.create (pod.metadata.ns.getD "") (.pod pod) state = made
  obtain ⟨answer, between⟩ := made
  cases answer with
  | ok value => rfl
  | error error =>
    by_cases already : error.kind = .alreadyExists
    · simp only [already, if_true, Program.run_bind, run_deletePod, Rehearsal.act_bind]
      cases ClientError.tolerate .notFound (Rehearsal.delete
          ⟨.pod, pod.metadata.ns.getD "", pod.displayName⟩ between).1 with
      | ok deleted => exact created _
      | error other => rfl
    · simp only [already, if_false]
      rfl

/-- The calls that a call of a run takes come to the same as the call. -/
theorem run_parts (asked : Cluster.Call) (state : Rehearsal) :
    (parts asked).run handler state = Rehearsal.handler asked state := by
  cases asked with
  | submitPod pod => exact run_submitPod pod state
  | _ => exact run_call _ state

/-- A program that makes its calls one by one comes to the same as the program. -/
theorem run_through {α : Type} (program : Program Cluster α) (state : Rehearsal) :
    (program.through parts).run handler state = program.run Rehearsal.handler state := by
  induction program generalizing state with
  | done value => rfl
  | call asked next ih =>
    rw [Program.through_call, Program.run_bind, run_parts, ih]
    rfl

/-! ## The rules of a run, call by call -/

/-- The calls that a run may make, one by one. -/
inductive Makes (plan : Plan) (given : String → String → Secret → Prop) : DirectCall → Prop
  /-- A call of a run. -/
  | ofRun {asked : ClusterCall} (makes : plan.Makes given asked)
      (direct : ∀ pod, asked ≠ .submitPod pod) : Makes plan given (.ofRun asked)
  /-- The pod of a step is created. -/
  | createPod {workload : Workload} (ofPlan : workload.plan = plan)
      (ofTest : workload.step ∈ plan.config.steps) :
      Makes plan given (.ofRun (.create plan.ns (.pod workload.pod)))
  /-- A pod that is left over in the place of a step's pod is deleted. -/
  | deletePod {step : Step} (ofTest : step ∈ plan.config.steps) :
      Makes plan given (.deletePod plan.ns (Naming.pod plan.test step.name))

/-- Answers that a run may get, call by call. -/
def Possible (given : String → String → Secret → Prop) :
    (asked : DirectCall) → asked.Answer → Prop
  | .ofRun asked, answer => Plan.Possible given asked answer
  | .deletePod .., _ => True

/-- Answers between which there is no difference for a run, call by call. -/
def Alike (plan : Plan) : (asked : DirectCall) → asked.Answer → asked.Answer → Prop
  | .ofRun asked, first, second => plan.Alike asked first second
  | .deletePod .., _, _ => False

/-- The rules of a run, call by call. -/
def rules (plan : Plan) (given : String → String → Secret → Prop) : Rules Direct :=
  ⟨Makes plan given, Possible given, Alike plan⟩

variable {plan : Plan} {given : String → String → Secret → Prop}

/-- Handing over the pod of a step keeps to the rules, call by call. -/
theorem conforms_submitPod {workload : Workload} (ofPlan : workload.plan = plan)
    (ofTest : workload.step ∈ plan.config.steps) :
    (submitPod workload.pod).Conforms (rules plan given) fun _ => True := by
  subst ofPlan
  have creating : (call (.create (workload.pod.metadata.ns.getD "")
      (.pod workload.pod))).Conforms (rules workload.plan given) fun _ => True :=
    Program.conforms_ask (.createPod rfl ofTest) (fun _ _ alike => absurd rfl alike.1)
      fun _ _ => trivial
  have deleting : (deletePod (workload.pod.metadata.ns.getD "")
      workload.pod.displayName).Conforms (rules workload.plan given) fun _ => True :=
    Program.conforms_ask (.deletePod ofTest) (fun _ _ alike => alike.elim) fun _ _ => trivial
  refine creating.bind fun created _ => ?_
  cases created with
  | ok value => exact trivial
  | error error =>
    dsimp only
    split
    · refine deleting.bind fun deleted _ => ?_
      split
      · exact creating
      · exact trivial
    · exact trivial

/-- A program that keeps to the rules of a run keeps to them call by call. -/
theorem conforms_through {α : Type} {ensured : α → Prop} {program : Program Cluster α}
    (conforms : program.Conforms (plan.rules given) ensured) :
    (program.through parts).Conforms (rules plan given) ensured := by
  induction program with
  | done value => exact conforms
  | call asked next ih =>
    obtain ⟨may, same, later⟩ := conforms
    have single : (∀ pod, asked ≠ .submitPod pod) →
        parts asked = Program.ask (I := Direct) (.ofRun asked) := by
      intro direct
      cases asked with
      | submitPod pod => exact absurd rfl (direct pod)
      | _ => rfl
    by_cases direct : ∀ pod, asked ≠ .submitPod pod
    · rw [Program.through_call, single direct]
      refine ⟨.ofRun may direct, fun first second alike => ?_,
        fun answer possible => ih answer (later answer possible)⟩
      exact congrArg (·.through parts) (same first second alike)
    · simp only [Classical.not_forall, Classical.not_not] at direct
      obtain ⟨pod, rfl⟩ := direct
      obtain ⟨workload, ofPlan, ofTest, rfl⟩ : ∃ workload : Workload, workload.plan = plan ∧
          workload.step ∈ plan.config.steps ∧ pod = workload.pod := by
        cases may with
        | submit ofPlan ofTest => exact ⟨_, ofPlan, ofTest, rfl⟩
      exact (conforms_submitPod ofPlan ofTest).bind fun answer _ => ih answer (later answer trivial)

end Direct

end StagedTest
