import StagedTest.Rehearsal
import StagedTest.Run
import StagedTest.Proofs.Attempts
import StagedTest.Proofs.PhaseHistory

/-!
# What a run asks for

A run is an attempt to provide what the steps rely on, and then its phases. An attempt that fails
ends the run at once, asks for nothing that has to do with pods, and fails in a way that says so.
The phases follow each other as `Plan.Stages` tells. The main statement is that every history of a
run is either that of an attempt that failed, or that of one that went well followed by phases.
-/
namespace StagedTest

open Program

/-! ## Preparing a run -/

/-- Whether a failure is one of those that end a run before its first phase. -/
def RunError.isPreparation : RunError → Bool
  | .parameter .. | .profileSecret .. | .optionalOperator .. | .deleteSecret .. | .createSecret ..
  | .readCredential .. | .createCredential .. | .mirrorNameCollision .. | .createAccess .. => true
  | _ => false

/-- A result that fails only as preparations do. -/
abbrev RunError.OnlyPreparation {α : Type} (result : Except RunError α) : Prop :=
  ∀ error, result = .error error → error.isPreparation = true

/-- One result after the other fails only as its parts do. -/
theorem RunError.OnlyPreparation.bind {α β : Type} {first : Except RunError α}
    {second : α → Except RunError β} (head : OnlyPreparation first)
    (tail : ∀ value, OnlyPreparation (second value)) : OnlyPreparation (first >>= second) := by
  cases first with
  | error error => exact fun other failed => head other (by cases failed; rfl)
  | ok value => exact tail value

/-- Whether a call reads, creates or deletes something other than a pod. -/
def ClusterCall.isProvisioning : ClusterCall → Bool
  | .create _ object => object.kind != .pod
  | .readSecret .. | .deleteSecret .. => true
  | _ => false

/-- An attempt that has nothing to do with pods or images, and fails only as preparations do. -/
abbrev Attempt.Prepares {α : Type} (attempt : Attempt α) : Prop :=
  attempt.run.Obeys (fun asked => ClusterCall.isProvisioning asked = true)
    RunError.OnlyPreparation

namespace Attempt

variable {α β : Type}

/-- One preparation after the other is a preparation. -/
theorem Prepares.bind {first : Attempt α} {second : α → Attempt β} (head : first.Prepares)
    (tail : ∀ value, (second value).Prepares) : (first >>= second).Prepares := by
  intro history result ends
  rcases ends_bind_iff.1 ends with ⟨error, failed, rfl⟩ | ⟨early, late, value, rfl, begun, ended⟩
  · obtain ⟨calls, blamed⟩ := head failed
    refine ⟨calls, ?_⟩
    rintro other ⟨rfl⟩
    exact blamed error rfl
  · obtain ⟨earlyCalls, _⟩ := head begun
    obtain ⟨lateCalls, blamed⟩ := tail value ended
    refine ⟨fun event member => ?_, blamed⟩
    exact (List.mem_append.1 member).elim (earlyCalls event) (lateCalls event)

/-- Nothing left to do is a preparation. -/
theorem prepares_pure (value : α) : (pure value : Attempt α).Prepares := by
  intro history result ends
  obtain ⟨rfl, rfl⟩ := ends_pure_iff.1 ends
  exact ⟨by simp, fun error failed => by cases failed⟩

/-- Going on with a result is a preparation when the result fails as preparations do. -/
theorem prepares_ofExcept {made : Except RunError α}
    (blamed : RunError.OnlyPreparation made) : (ofExcept made).Prepares := by
  intro history result ends
  obtain ⟨rfl, rfl⟩ := ends_ofExcept_iff.1 ends
  exact ⟨by simp, blamed⟩

/-- A call that has nothing to do with pods or images. -/
theorem provisioning_ask (asked : ClusterCall) (may : asked.isProvisioning = true) :
    (Program.ask (I := Cluster) asked).Obeys
      (fun asked => ClusterCall.isProvisioning asked = true) fun _ => True :=
  obeys_ask may

/-- Going on with an answer is a preparation when the calls behind it and the blame are. -/
theorem prepares_orFail {blame : ClientError → RunError}
    {program : Program Cluster (Except ClientError α)}
    (calls : program.Obeys (fun asked => ClusterCall.isProvisioning asked = true) fun _ => True)
    (blamed : ∀ error, (blame error).isPreparation = true) : (orFail blame program).Prepares := by
  intro history result ends
  obtain ⟨answer, asked, rfl⟩ := ends_orFail_iff.1 ends
  refine ⟨(calls asked).1, fun error failed => ?_⟩
  cases answer with
  | ok value => cases failed
  | error cause =>
    cases failed
    exact blamed cause

end Attempt

namespace SharedEnvironment

/-- A parameter without value ends a run before its first phase. -/
theorem onlyPreparation_resolveAll (parameters : Parameters) (names : List String) :
    RunError.OnlyPreparation (resolveAll parameters names) := by
  have single : ∀ name, RunError.OnlyPreparation (resolve parameters name) := by
    intro name error failed
    rw [resolve] at failed
    split at failed <;> cases failed
    rfl
  induction names with
  | nil => exact fun error failed => by cases failed
  | cons name rest ih =>
    exact (single name).bind fun _ => ih.bind fun _ error failed => by cases failed

/-- An optional operator that is not fully described ends a run before its first phase. -/
theorem onlyPreparation_operator (parameters : Parameters) :
    RunError.OnlyPreparation (operator parameters) := by
  have single : ∀ name, RunError.OnlyPreparation (operatorVariable parameters name) := by
    intro name error failed
    rw [operatorVariable] at failed
    split at failed <;> cases failed
    rfl
  rw [operator]
  split
  · exact (single _).bind fun _ => (single _).bind fun _ => (single _).bind
      fun _ error failed => by cases failed
  · exact fun error failed => by cases failed

/-- Putting the shared environment together is a preparation. -/
theorem prepares_assemble (plan : Plan) : (assemble plan).Prepares := by
  refine (Attempt.prepares_ofExcept (onlyPreparation_resolveAll _ _)).bind fun leases => ?_
  split
  · exact Attempt.prepares_pure _
  · refine (Attempt.prepares_orFail (Attempt.provisioning_ask (.readSecret _ _) rfl)
      fun _ => rfl).bind fun _ => ?_
    refine (Attempt.prepares_ofExcept ?_).bind fun _ => Attempt.prepares_pure _
    exact (onlyPreparation_resolveAll _ _).bind fun _ =>
      (onlyPreparation_operator _).bind fun _ error failed => by cases failed

end SharedEnvironment

namespace Provision

/-- Of two different secrets with the same copy the run hears before its first phase. -/
theorem onlyPreparation_references (known : StringMap Credential) (asked : List Credential) :
    RunError.OnlyPreparation (references known asked) := by
  induction asked generalizing known with
  | nil => exact fun error failed => by cases failed
  | cons credential rest ih =>
    rw [references]
    split
    · exact ih _
    · split
      · exact ih _
      · exact fun error failed => by cases failed; rfl

/-- Creating an object unless it is there is a preparation, if the object is no pod. -/
theorem prepares_createIfAbsent {blame : ClientError → RunError}
    (blamed : ∀ error, (blame error).isPreparation = true) (ns : String) {object : Object}
    (noPod : (object.kind != .pod) = true) : (createIfAbsent blame ns object).Prepares := by
  refine (Attempt.prepares_orFail ?_ blamed).bind fun _ => Attempt.prepares_pure _
  exact (Attempt.provisioning_ask (.create ns object) noPod).bind fun _ _ => obeys_done trivial

/-- Replacing the shared secret is a preparation. -/
theorem prepares_resetSharedSecret (plan : Plan) : (resetSharedSecret plan).Prepares := by
  refine (Attempt.prepares_orFail ?_ fun _ => rfl).bind fun _ =>
    Attempt.prepares_orFail (Attempt.provisioning_ask (.create _ _) rfl) fun _ => rfl
  exact (Attempt.provisioning_ask (.deleteSecret _ _) rfl).bind fun _ _ => obeys_done trivial

/-- Reading secrets is a preparation. -/
theorem prepares_readAll (ns : String) (entries : List (String × Credential)) :
    (readAll ns entries).Prepares := by
  induction entries with
  | nil => exact Attempt.prepares_pure _
  | cons entry rest ih =>
    exact (Attempt.prepares_orFail (Attempt.provisioning_ask (.readSecret _ _) rfl)
      fun _ => rfl).bind fun _ => ih.bind fun _ => Attempt.prepares_pure _

/-- Creating copies of secrets is a preparation. -/
theorem prepares_createAll (ns : String) (copies : List (String × Secret)) :
    (createAll ns copies).Prepares := by
  induction copies with
  | nil => exact Attempt.prepares_pure _
  | cons copy rest ih => exact (prepares_createIfAbsent (fun _ => rfl) ns rfl).bind fun _ => ih

/-- Providing what the steps rely on is a preparation. -/
theorem prepares_all (plan : Plan) : (all plan).Prepares := by
  have mirrors : (mirrorCredentials plan).Prepares :=
    (Attempt.prepares_ofExcept (onlyPreparation_references _ _)).bind fun _ =>
      (prepares_readAll _ _).bind fun _ => prepares_createAll _ _
  have access : (createAccess plan).Prepares :=
    (prepares_createIfAbsent (fun _ => rfl) _ rfl).bind fun _ =>
      (prepares_createIfAbsent (fun _ => rfl) _ rfl).bind fun _ =>
        prepares_createIfAbsent (fun _ => rfl) _ rfl
  exact (SharedEnvironment.prepares_assemble plan).bind fun _ =>
    (prepares_resetSharedSecret plan).bind fun _ => mirrors.bind fun _ => access.bind fun _ =>
      Attempt.prepares_pure _

end Provision

/-! ## Phases of a run -/

/-- The progress at the end of a phase with an outcome. -/
def Progress.ended (progress : Progress) (phase : Phase) (outcome : PhaseRun.Outcome) :
    Progress :=
  ((progress.setPhase phase .running).addCases outcome.cases).setPhase phase
    (Plan.endState (RunError.collect outcome.errors))

/-- At its end a phase has failed exactly if something is wrong; the other phases stay as they
are. -/
@[simp] theorem Progress.phase_ended (progress : Progress) (phase other : Phase)
    (outcome : PhaseRun.Outcome) :
    (progress.ended phase outcome).phase other =
      if other = phase then (if outcome.errors = [] then .succeeded else .failed)
      else progress.phase other := by
  obtain ⟨cases, errors⟩ := outcome
  by_cases same : other = phase
  · subst same
    rcases errors with _ | ⟨first, _ | ⟨second, rest⟩⟩ <;>
      simp [ended, setPhase, RunError.collect, Plan.endState]
  · simp [ended, setPhase, addCases, same]

namespace Plan

/-- A phase lists one failure exactly if something is wrong in it. -/
theorem phaseErrors_collect (plan : Plan) (phase : Phase) (errors : List RunError) :
    (errors = [] ∧ plan.phaseErrors phase (RunError.collect errors) = []) ∨
      errors ≠ [] ∧ ∃ source,
        plan.phaseErrors phase (RunError.collect errors) =
          [.phaseFailed plan.test phase source] := by
  rcases errors with _ | ⟨first, _ | ⟨second, rest⟩⟩
  · exact .inl ⟨rfl, rfl⟩
  · exact .inr ⟨by simp, first, rfl⟩
  · exact .inr ⟨by simp, .aggregate (first :: second :: rest), rfl⟩

/-- The course of a phase decides how a run goes on after it. -/
theorem ends_runPhase {plan : Plan} {token : Token} {shared : List EnvVar} {failedBefore : Bool}
    {phase : Phase} {progress : Progress} {history : History Cluster}
    {ended : Progress × List RunError}
    (ends : (plan.runPhase token shared failedBefore phase progress).Ends history ended) :
    ∃ outcome, PhaseRun.Course plan token shared failedBefore phase history outcome ∧
      ended = (progress.ended phase outcome,
        plan.phaseErrors phase (RunError.collect outcome.errors)) := by
  simp only [runPhase, bind_eq, pure_eq, ends_bind_iff, ends_done_iff] at ends
  obtain ⟨_, _, outcome, rfl, ran, rfl, rfl⟩ := ends
  rw [List.append_nil]
  exact ⟨outcome, PhaseRun.course ran, rfl⟩

/-- How the phases of a run follow each other: the histories of preparation, test and cleanup,
the progress at the end, and the result. -/
inductive Stages (plan : Plan) (shared : List EnvVar) (progress : Progress) :
    History Cluster → History Cluster → History Cluster → Progress → Except RunError Unit → Prop
  /-- The preparation fails, and the test does not begin. -/
  | stopped {pre post : History Cluster} {first last : PhaseRun.Outcome}
      (prepared : PhaseRun.Course plan .caller shared false .pre pre first)
      (failed : first.errors ≠ [])
      (cleaned : PhaseRun.Course plan .detached shared true .post post last) :
      Stages plan shared progress pre [] post ((progress.ended .pre first).ended .post last)
        (RunError.collect (plan.phaseErrors .pre (RunError.collect first.errors) ++
          plan.phaseErrors .post (RunError.collect last.errors)))
  /-- The preparation goes well, and the test follows. -/
  | tested {pre test post : History Cluster} {first second last : PhaseRun.Outcome}
      (prepared : PhaseRun.Course plan .caller shared false .pre pre first)
      (well : first.errors = [])
      (tried : PhaseRun.Course plan .caller shared false .test test second)
      (cleaned : PhaseRun.Course plan .detached shared (!second.errors.isEmpty) .post post last) :
      Stages plan shared progress pre test post
        (((progress.ended .pre first).ended .test second).ended .post last)
        (RunError.collect (plan.phaseErrors .test (RunError.collect second.errors) ++
          plan.phaseErrors .post (RunError.collect last.errors)))

/-- Whatever the cluster answers, the phases of a run follow each other in one of the two
ways. -/
theorem ends_runPhases {plan : Plan} {shared : List EnvVar} {progress after : Progress}
    {history : History Cluster} {result : Except RunError Unit}
    (ends : (plan.runPhases shared progress).Ends history (after, result)) :
    ∃ pre test post, history = pre ++ test ++ post ∧
      plan.Stages shared progress pre test post after result := by
  simp only [runPhases, runBeforeCleanup, bind_eq, pure_eq, ends_bind_iff, ends_done_iff] at ends
  obtain ⟨_, _, _, rfl, ⟨pre, _, _, rfl, began, went⟩, post, _, _, rfl, finished, rfl, same⟩ := ends
  obtain ⟨rfl, rfl⟩ := Prod.mk.inj same
  obtain ⟨first, prepared, rfl⟩ := ends_runPhase began
  obtain ⟨last, cleaned, rfl⟩ := ends_runPhase finished
  rw [List.append_nil]
  rcases phaseErrors_collect plan .pre first.errors with ⟨well, none⟩ | ⟨failed, source, one⟩
  · rw [none] at went
    obtain ⟨second, tried, rfl⟩ := ends_runPhase went
    refine ⟨pre, _, post, rfl, ?_⟩
    have before : (!(plan.phaseErrors .test (RunError.collect second.errors)).isEmpty) =
        !second.errors.isEmpty := by
      rcases phaseErrors_collect plan .test second.errors with ⟨empty, none⟩ | ⟨some, _, one⟩
      · rw [none, empty]
      · rw [one, List.isEmpty_eq_false_iff.2 some]
        rfl
    rw [before] at cleaned
    exact .tested prepared well tried cleaned
  · rw [one] at went
    obtain ⟨rfl, rfl⟩ := ends_done_iff.1 went
    refine ⟨pre, [], post, rfl, ?_⟩
    rw [← one]
    exact .stopped prepared failed cleaned

/-- A run is a preparation that fails, or one that goes well and is followed by the phases. -/
theorem ends_run {plan : Plan} {progress after : Progress} {history : History Cluster}
    {result : Except RunError Unit}
    (ends : (plan.run progress).Ends history (after, result)) :
    (∃ error, (Provision.all plan).run.Ends history (.error error) ∧
        after = progress.restarted ∧ result = .error error) ∨
      ∃ shared early pre test post, history = early ++ (pre ++ test ++ post) ∧
        (Provision.all plan).run.Ends early (.ok shared) ∧
        plan.Stages shared progress.restarted pre test post after result := by
  simp only [run, bind_eq, pure_eq, Program.ends_bind_iff] at ends
  obtain ⟨early, late, provided, rfl, began, rest⟩ := ends
  cases provided with
  | error error =>
    obtain ⟨rfl, same⟩ := ends_done_iff.1 rest
    obtain ⟨rfl, rfl⟩ := Prod.mk.inj same
    rw [List.append_nil]
    exact .inl ⟨error, began, rfl, rfl⟩
  | ok shared =>
    obtain ⟨pre, test, post, rfl, stages⟩ := ends_runPhases rest
    exact .inr ⟨shared, early, pre, test, post, rfl, began, stages⟩

end Plan

/-! ## A small test -/

/-- A step that needs a secret. -/
def Step.prepare : Step :=
  { (default : Step) with
    name := "prepare"
    credentials := [{ ns := "vault", name := "token", mountPath := "/token" }] }

/-- A step that needs nothing. -/
def Step.cleanUp : Step := { (default : Step) with name := "cleanup" }

/-- A test with one step to prepare and one step to clean up. -/
def Plan.small : Plan where
  config :=
    { (default : TestConfiguration) with name := "e2e", pre := [.prepare], post := [.cleanUp] }
  build := default
  job := { ns := "ci", name := "nightly", owner := none }
  parameters := default

/-- A cluster in which the secret of the small test is stored, and in which calls fail as it is
scripted. -/
def Rehearsal.small (failures : List ScriptedFailure) : Rehearsal where
  store := Store.empty.put ⟨.secret, "vault", "token"⟩ (.secret {})
  failures

/-- Every creation of an object of a kind is refused. -/
def ScriptedFailure.refusing (kind : ObjectKind) : ScriptedFailure where
  method := "create"
  what := kind.name
  name := "*"
  error := fun method what name => .call method what name .unreachable

end StagedTest
