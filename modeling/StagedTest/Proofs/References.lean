import StagedTest.Proofs.Credentials
import StagedTest.Proofs.Provisioning
import StagedTest.Proofs.RehearsalSteps
import StagedTest.Proofs.Submissions

/-!
# What pods refer to

A pod names the identity that it runs as and the secrets that it mounts. The names are put into
the pod by one part of the program, and the objects are provided by another. The main statement
is that they agree: whenever a pod is handed over, everything that it refers to is stored in its
namespace, and the shared secret is the one that this very run has created.
-/
namespace StagedTest

open Program

/-! ## What is handed over -/

/-- Among pods up to the first failure there are no others. -/
theorem mem_of_mem_upToFailure {pod : Pod} {pods : List Pod} {failed : List Bool}
    (member : pod ∈ upToFailure pods failed) : pod ∈ pods := by
  induction pods generalizing failed with
  | nil => contradiction
  | cons first rest ih =>
    have last : pod ∈ [first] → pod ∈ first :: rest := by
      intro only
      rw [List.mem_singleton.1 only]
      exact List.mem_cons_self
    rcases failed with _ | ⟨_ | _, later⟩
    · exact last member
    · rcases List.mem_cons.1 member with rfl | member
      · exact List.mem_cons_self
      · exact List.mem_cons_of_mem _ (ih member)
    · exact last member

/-- The pod of a step is a workload of the step. -/
theorem Batch.workload_of_stepPod? {plan : Plan} {shared : List EnvVar} {step : Step}
    {answers : List (Except ClientError String)} {pod : Pod}
    (built : stepPod? plan shared step answers = some pod) :
    ∃ workload : Workload, workload.plan = plan ∧ workload.step = step ∧ pod = workload.pod := by
  rw [stepPod?] at built
  split at built
  · cases built
  · simp only [Option.bind_eq_bind, Option.pure_def, Option.bind_eq_some_iff,
      Option.some.injEq] at built
    obtain ⟨parameters, _, dependencies, _, rfl⟩ := built
    exact ⟨_, rfl, rfl, rfl⟩

/-- The pods of steps are workloads of these steps. -/
theorem Batch.mem_podsOf? {plan : Plan} {shared : List EnvVar} {steps : List Step}
    {answers : List (Except ClientError String)} {pods : List Pod} {pod : Pod}
    (built : podsOf? plan shared steps answers = some pods) (member : pod ∈ pods) :
    ∃ workload : Workload, workload.plan = plan ∧ workload.step ∈ steps ∧ pod = workload.pod := by
  induction steps generalizing answers pods with
  | nil =>
    obtain rfl : [] = pods := Option.some.inj built
    contradiction
  | cons step rest ih =>
    simp only [podsOf?, Option.bind_eq_bind, Option.pure_def, Option.bind_eq_some_iff,
      Option.some.injEq] at built
    obtain ⟨own, found, others, later, rfl⟩ := built
    rcases List.mem_cons.1 member with rfl | member
    · obtain ⟨workload, ofPlan, rfl, same⟩ := workload_of_stepPod? found
      exact ⟨workload, ofPlan, List.mem_cons_self, same⟩
    · obtain ⟨workload, ofPlan, ofStep, same⟩ := ih later member
      exact ⟨workload, ofPlan, List.mem_cons_of_mem _ ofStep, same⟩

/-- The steps of a phase are steps of the test. -/
theorem Phase.mem_steps {config : TestConfiguration} {phase : Phase} {step : Step}
    (ofPhase : step ∈ phase.steps config) : step ∈ config.steps := by
  rw [TestConfiguration.steps]
  cases phase with
  | pre => exact List.mem_append_left _ (List.mem_append_left _ ofPhase)
  | test => exact List.mem_append_left _ (List.mem_append_right _ ofPhase)
  | post => exact List.mem_append_right _ ofPhase

/-- What a phase hands over are workloads of the test's steps. -/
theorem Conducted.workload {plan : Plan} {shared : List EnvVar} {phase : Phase}
    {failedBefore : Prop} [Decidable failedBefore] {history : History Cluster} {state : PhaseState}
    (conducted : Conducted plan shared phase failedBefore history state) {pod : Pod}
    (member : pod ∈ submissions history) :
    ∃ workload : Workload, workload.plan = plan ∧ workload.step ∈ plan.config.steps ∧
      pod = workload.pod := by
  have expected : pod ∈ expectedPods plan shared phase failedBefore history := by
    rw [conducted.handed] at member
    split at member
    · exact mem_of_mem_upToFailure member
    · exact member
  rw [expectedPods] at expected
  cases built : Batch.podsOf? plan shared (includedSteps plan.config phase failedBefore)
      (lookups history) with
  | none => simp [built] at expected
  | some pods =>
    rw [built] at expected
    obtain ⟨workload, ofPlan, ofStep, same⟩ := Batch.mem_podsOf? built expected
    have ofPhase := (List.mem_filter.1 ofStep).1
    exact ⟨workload, ofPlan, Phase.mem_steps ofPhase, same⟩

/-- A phase provides nothing. -/
theorem PhaseRun.Course.provides_nothing {plan : Plan} {token : Token} {shared : List EnvVar}
    {failedBefore : Bool} {phase : Phase} {history : History Cluster} {outcome : PhaseRun.Outcome}
    (course : PhaseRun.Course plan token shared failedBefore phase history outcome) :
    ∀ event ∈ history, ClusterCall.isProvisioning event.1 = false := by
  rintro ⟨asked, answer⟩ member
  cases course.asks _ member <;> rfl

/-- The phases of a run provide nothing. -/
theorem Plan.Stages.provide_nothing {plan : Plan} {shared : List EnvVar}
    {progress after : Progress} {pre test post : History Cluster} {result : Except RunError Unit}
    (stages : plan.Stages shared progress pre test post after result) :
    ∀ event ∈ pre ++ test ++ post, ClusterCall.isProvisioning event.1 = false := by
  simp only [List.forall_mem_append]
  cases stages with
  | stopped prepared _ cleaned =>
    exact ⟨⟨prepared.provides_nothing, by simp⟩, cleaned.provides_nothing⟩
  | tested prepared _ tried cleaned =>
    exact ⟨⟨prepared.provides_nothing, tried.provides_nothing⟩, cleaned.provides_nothing⟩

/-- What the phases of a run hand over are workloads of the test's steps. -/
theorem Plan.Stages.workload {plan : Plan} {shared : List EnvVar} {progress after : Progress}
    {pre test post : History Cluster} {result : Except RunError Unit}
    (fresh : progress.phase .test = .notStarted)
    (stages : plan.Stages shared progress pre test post after result) {pod : Pod}
    {answer : Except ClientError Unit}
    (member : ⟨ClusterCall.submitPod pod, answer⟩ ∈ pre ++ test ++ post) :
    ∃ workload : Workload, workload.plan = plan ∧ workload.step ∈ plan.config.steps ∧
      pod = workload.pod := by
  have handed : ∀ history : History Cluster, ⟨ClusterCall.submitPod pod, answer⟩ ∈ history →
      pod ∈ submissions history :=
    fun history submitted => List.mem_filterMap.2 ⟨_, submitted, rfl⟩
  obtain ⟨first, second, last⟩ := conducted_stages fresh stages
  rcases List.mem_append.1 member with member | member
  · rcases List.mem_append.1 member with member | member
    · exact first.workload (handed pre member)
    · rcases second with ⟨_, second⟩ | ⟨_, rfl, _⟩
      · exact second.workload (handed test member)
      · contradiction
  · exact last.workload (handed post member)

/-! ## What is referred to -/

/-- Where everything is provided, the secrets that a workload mounts are there. -/
theorem Workload.secrets_provided {workload : Workload} {store : Store}
    (provided : workload.plan.Provided store)
    (ofTest : workload.step ∈ workload.plan.config.steps) {attachment : Attachment}
    (member : attachment ∈ workload.attachments) {directory : SecretDirectory}
    (mounted : attachment.volume.secret = some directory) :
    ∃ name, directory.secretName = some name ∧
      store.Holds .secret workload.plan.ns name := by
  have shared : store.Holds .secret workload.plan.ns (Naming.sharedSecret workload.plan.test) := by
    have stored := provided.shared
    rw [Plan.sharedKey] at stored
    rw [Store.Holds, stored]
    rfl
  have copied : ∀ credential ∈ workload.step.credentials,
      store.Holds .secret workload.plan.ns credential.mirrorName := by
    intro credential asked
    obtain ⟨references, known, there⟩ := provided.copies
    have ofPlan : credential ∈ Provision.credentials workload.plan.config :=
      List.mem_flatMap.2 ⟨workload.step, ofTest, asked⟩
    obtain ⟨_, listed, _⟩ := Provision.mem_entries_of_asked known ofPlan
    exact there _ listed
  simp only [Workload.attachments, List.mem_append, List.mem_map, Option.mem_toList] at member
  rcases member with (((((⟨_, _, rfl⟩ | ofHome) | ofWrapper) | ⟨profile, declared, rfl⟩) |
    ⟨_, _, rfl⟩) | ofShared) | ⟨credential, asked, rfl⟩
  · cases mounted
  · obtain rfl := List.mem_singleton.1 ofHome
    cases mounted
  · split at ofWrapper
    · obtain rfl := List.mem_singleton.1 ofWrapper
      cases mounted
    · contradiction
  · cases mounted
    exact ⟨_, rfl, provided.profile (by rw [declared]; rfl)⟩
  · cases mounted
  · obtain rfl := List.mem_singleton.1 ofShared
    cases mounted
    exact ⟨_, rfl, shared⟩
  · cases mounted
    exact ⟨_, rfl, copied credential asked⟩

/-! ## Whenever a pod is handed over -/

/-- Provisioning that goes well has created the shared secret. -/
theorem Provision.created_shared {plan : Plan} {history : History Cluster} {shared : List EnvVar}
    (ends : (Provision.all plan).run.Ends history (.ok shared)) :
    ⟨ClusterCall.create plan.ns plan.sharedSecret, .ok ()⟩ ∈ history := by
  obtain ⟨_, _, _, _, rfl, _, reset, _⟩ := ends_all ends
  obtain ⟨_, _, _, rfl, _, creation⟩ := Attempt.ends_bind_ok reset
  obtain ⟨answer, asked, succeeded⟩ := Attempt.ends_orFail_iff.1 creation
  obtain rfl := ends_ask_iff.1 asked
  cases answer with
  | error error => cases succeeded
  | ok created =>
    refine List.mem_append_right _ (List.mem_append_left _ (List.mem_append_right _ ?_))
    exact List.mem_singleton_self _

/-- Something that is not in the first part of a list is in the second. -/
theorem exists_middle {α : Type} {before later early late : List α} {event : α}
    (same : before ++ event :: later = early ++ late) (absent : event ∉ early) :
    ∃ middle, before = early ++ middle ∧ late = middle ++ event :: later := by
  rcases List.append_eq_append_iff.1 same with ⟨middle, rfl, rest⟩ | ⟨middle, rfl, rest⟩
  · cases middle with
    | nil => exact ⟨[], by simp, rest.symm⟩
    | cons first others =>
      obtain ⟨rfl, _⟩ := List.cons.inj rest
      exact absurd (List.mem_append_right _ List.mem_cons_self) absent
  · exact ⟨middle, rfl, rest⟩

/-- When a pod is handed over to a truthful store, whatever fails otherwise, the identity that the
pod runs as, the role and the grant of the test, and every secret that the pod mounts are stored in
the namespace of the test, and the shared secret is the one that this run has created. -/
theorem stored_at_submission {plan : Plan} {progress : Progress} {before later : History Cluster}
    {pod : Pod} {answer : Except ClientError Unit} {ended : Progress × Except RunError Unit}
    {store now : Store}
    (ends : (plan.run progress).Ends
      (before ++ ⟨ClusterCall.submitPod pod, answer⟩ :: later) ended)
    (follows : Follows (Store.Step True) store before now) :
    (∃ identity, pod.spec.bind (·.serviceAccountName) = some identity ∧
        now.Holds .serviceAccount plan.ns identity) ∧
      now.Holds .role plan.ns plan.test ∧
      now.Holds .roleBinding plan.ns plan.test ∧
      (∀ volume ∈ (pod.spec.bind (·.volumes)).getD [], ∀ directory,
        volume.secret = some directory →
          ∃ name, directory.secretName = some name ∧ now.Holds .secret plan.ns name) ∧
      now.get? ⟨.secret, plan.ns, Naming.sharedSecret plan.test⟩ =
        some (.secret (.shared plan.ns plan.test)) ∧
      ⟨ClusterCall.create plan.ns (.secret (.shared plan.ns plan.test)), .ok ()⟩ ∈ before := by
  obtain ⟨after, result⟩ := ended
  have providing : ∀ {history : History Cluster} {provided : Except RunError (List EnvVar)},
      (Provision.all plan).run.Ends history provided →
        ⟨ClusterCall.submitPod pod, answer⟩ ∉ history := by
    intro history provided preparation member
    have other := (Provision.prepares_all plan preparation).1 _ member
    cases other
  rcases Plan.ends_run ends with ⟨error, failed, _⟩ |
    ⟨shared, early, pre, test, post, whole, prepared, stages⟩
  · exact absurd (List.mem_append_right _ List.mem_cons_self) (providing failed)
  · -- Preparation hands over nothing, so all of it lies before the pod, and between it and the pod
    -- nothing but pods has changed.
    obtain ⟨middle, rfl, phases⟩ := exists_middle whole (providing prepared)
    obtain ⟨between, led, leading⟩ := follows_append_iff.1 follows
    have ready := (Provision.ensures_all plan rfl prepared led).2 shared rfl
    have provided := ready.2.2 trivial
    have same : between.SameButPods now := by
      refine Store.sameButPods_of_follows leading fun event member => ?_
      have listed : event ∈ pre ++ test ++ post := by
        rw [phases]
        exact List.mem_append_left _ member
      exact stages.provide_nothing event listed
    have kept : ∀ {kind : ObjectKind} {ns name : String}, kind ≠ .pod →
        between.Holds kind ns name → now.Holds kind ns name := by
      intro kind ns name noPod held
      rw [Store.Holds, same ⟨kind, ns, name⟩ noPod]
      exact held
    have handed : ⟨ClusterCall.submitPod pod, answer⟩ ∈ pre ++ test ++ post := by
      rw [phases]
      exact List.mem_append_right _ List.mem_cons_self
    obtain ⟨workload, rfl, ofTest, rfl⟩ := stages.workload rfl handed
    refine ⟨⟨_, rfl, kept (by decide) provided.access.identity⟩,
      kept (by decide) provided.access.role, kept (by decide) provided.access.grant, ?_, ?_, ?_⟩
    · intro volume member directory mounted
      obtain ⟨attachment, attached, rfl⟩ := List.mem_map.1 member
      obtain ⟨name, named, held⟩ := workload.secrets_provided provided ofTest attached mounted
      exact ⟨name, named, kept (by decide) held⟩
    · have noPod : workload.plan.sharedKey.kind ≠ .pod := by
        intro pod
        cases pod
      exact (same workload.plan.sharedKey noPod).trans provided.shared
    · exact List.mem_append_left _ (Provision.created_shared prepared)

/-- When the first pod of the small test is handed over, the copy of the secret that it mounts is
stored. -/
theorem stored_at_submission_small : ∃ before later answer now,
    (Plan.run .small .initial).trace Rehearsal.handler (.small []) =
        before ++ ⟨ClusterCall.submitPod (Workload.pod ⟨.small, .prepare, [], [], []⟩), answer⟩ ::
          later ∧
      Follows (Store.Step True) (Rehearsal.small []).store before now ∧
      now.Holds .secret "ci" "vault-token" := by
  have ends := ends_run Rehearsal.handler (Plan.run .small .initial) (.small [])
  have follows := Rehearsal.follows_step True (Plan.run .small .initial) (.small [])
    fun _ error member => by cases member
  have whole : (Plan.run .small .initial).trace Rehearsal.handler (.small []) =
      ((Plan.run .small .initial).trace Rehearsal.handler (.small [])).take 7 ++
        ⟨ClusterCall.submitPod (Workload.pod ⟨.small, .prepare, [], [], []⟩), .ok ()⟩ ::
          ((Plan.run .small .initial).trace Rehearsal.handler (.small [])).drop 8 := rfl
  rw [whole] at ends follows
  obtain ⟨now, led, _⟩ := follows_append_iff.1 follows
  obtain ⟨_, _, _, mounted, _⟩ := stored_at_submission ends led
  obtain ⟨name, named, held⟩ := mounted (.ofSecret "vault-token" "vault-token")
    (.tail _ (.tail _ (.tail _ (.head _)))) _ rfl
  cases named
  exact ⟨_, _, _, now, whole, led, held⟩

end StagedTest
