import StagedTest.PhaseRun
import StagedTest.Proofs.Coverage
import StagedTest.Proofs.Queries

/-!
# What is told of a step that fails

A pod that does not succeed is reported with its step and with what became of it. The step is found
again from the name of the pod, and what became of the pod from the end of the wait for it, which
may carry the pod as it was seen last. The main statement is that both are right: whatever the test
and the step are called and however the wait ends, people are told of that step and of that end,
and of a timeout exactly where the pod was stopped by one.
-/
namespace StagedTest

/-! ## What became of a pod -/

/-- The end of a wait carries a pod: one that has failed, or, where the wait was called off, one
that had been seen by then. -/
inductive WaitError.Carries : WaitError → Pod → Prop
  /-- The wait was called off. -/
  | cancelled (pod : Pod) : Carries (.cancelled (some pod)) pod
  /-- The pod has failed. -/
  | podFailed (pod : Pod) (report : String) : Carries (.podFailed pod report) pod

/-- The pod that is carried is the one that was seen last. -/
theorem WaitError.carries_iff {error : WaitError} {pod : Pod} :
    error.Carries pod ↔ error.pod? = some pod := by
  constructor
  · intro carried
    cases carried <;> rfl
  · intro seen
    cases error with
    | cancelled last =>
      obtain rfl : last = some pod := seen
      exact .cancelled pod
    | podFailed failed report =>
      obtain rfl : failed = pod := Option.some.inj seen
      exact .podFailed failed report
    | unobservable source => cases seen

/-- A pod was stopped because it ran too long. -/
structure Pod.Overran (pod : Pod) : Prop where
  /-- The pod has failed. -/
  failed : pod.phase? = some "Failed"
  /-- The time that it had was over. -/
  late : pod.reason? = some "DeadlineExceeded"

/-- A pod is found to have run too long exactly if it has. -/
theorem Pod.isDeadlineExceeded_iff {pod : Pod} : pod.isDeadlineExceeded = true ↔ pod.Overran := by
  unfold isDeadlineExceeded isFailed
  rw [Bool.and_eq_true, beq_iff_eq, beq_iff_eq]
  exact ⟨fun ⟨failed, late⟩ => ⟨failed, late⟩, fun overran => ⟨overran.failed, overran.late⟩⟩

/-- The wordings of what became of the pod of a step, by the end of the wait for it. -/
inductive Step.Worded (step : Step) (error : WaitError) : String → Prop
  /-- The pod was not seen to have run too long. -/
  | failed (otherwise : ∀ pod, error.Carries pod → ¬pod.Overran) : Worded step error "failed"
  /-- The time that the pod had is known from the pod. -/
  | observed {pod : Pod} {seconds : Int64} (seen : error.Carries pod) (overran : pod.Overran)
      (limit : pod.activeDeadlineSeconds? = some seconds) :
      Worded step error
        ("exceeded the configured timeout" ++ s!" activeDeadlineSeconds={seconds}")
  /-- The time that the pod had is known from the step only. -/
  | configured {pod : Pod} {seconds : Int64} (seen : error.Carries pod) (overran : pod.Overran)
      (unlimited : pod.activeDeadlineSeconds? = none)
      (limit : step.activeDeadlineSeconds = some seconds) :
      Worded step error
        ("exceeded the configured timeout" ++ s!" activeDeadlineSeconds={seconds}")
  /-- It is not known what time the pod had. -/
  | unlimited {pod : Pod} (seen : error.Carries pod) (overran : pod.Overran)
      (unlimited : pod.activeDeadlineSeconds? = none)
      (unlimitedToo : step.activeDeadlineSeconds = none) :
      Worded step error "exceeded the configured timeout"

/-- A wording begins with the timeout exactly if the pod was seen to have run too long. -/
theorem Step.Worded.timeout_iff {step : Step} {error : WaitError} {status : String}
    (worded : step.Worded error status) :
    (∃ rest, status = "exceeded the configured timeout" ++ rest) ↔
      ∃ pod, error.Carries pod ∧ pod.Overran := by
  cases worded with
  | failed otherwise =>
    constructor
    · rintro ⟨rest, same⟩
      have initials := congrArg (fun text : String => text.toList.head?) same
      rw [String.toList_append] at initials
      cases initials
    · rintro ⟨pod, seen, overran⟩
      exact absurd overran (otherwise pod seen)
  | observed seen overran | configured seen overran =>
    exact ⟨fun _ => ⟨_, seen, overran⟩, fun _ => ⟨_, rfl⟩⟩
  | unlimited seen overran =>
    exact ⟨fun _ => ⟨_, seen, overran⟩, fun _ => ⟨"", (String.append_empty).symm⟩⟩

namespace PhaseRun

/-- What is said of a pod that was submitted with the time of its step is a wording of what became
of it. -/
theorem worded_status {step : Step} {submitted : Pod} (error : WaitError)
    (limit : submitted.activeDeadlineSeconds? = step.activeDeadlineSeconds) :
    step.Worded error (status submitted error) := by
  unfold status
  rw [limit]
  cases found : error.pod?.filter (·.isDeadlineExceeded) with
  | none =>
    apply Step.Worded.failed
    intro pod seen overran
    rw [WaitError.carries_iff.1 seen, Option.filter_some,
      if_pos (Pod.isDeadlineExceeded_iff.2 overran)] at found
    cases found
  | some pod =>
    obtain ⟨last, exceeded⟩ := Option.filter_eq_some_iff.1 found
    have seen := WaitError.carries_iff.2 last
    have overran := Pod.isDeadlineExceeded_iff.1 exceeded
    dsimp only
    -- The time of the pod as it was seen comes before that of its step.
    cases own : pod.activeDeadlineSeconds? with
    | some seconds => exact .observed seen overran own
    | none =>
      cases configured : step.activeDeadlineSeconds with
      | some seconds => exact .configured seen overran own configured
      | none => exact .unlimited seen overran own configured

/-! ## Where to read about it -/

/-- The link to a job without its variant. -/
def jobPage (plan : Plan) : String :=
  "Link to job on registry info site: https://steps.ci.openshift.org/job?org=" ++
    plan.build.metadata.org ++ "&repo=" ++ plan.build.metadata.repo ++
    "&branch=" ++ plan.build.metadata.branch ++ "&test=" ++ plan.test

/-- The link to a job goes on with its variant, if it has one. -/
theorem jobLink_eq (plan : Plan) :
    jobLink plan = jobPage plan ++
      (if plan.build.metadata.variant = "" then ""
        else "&variant=" ++ plan.build.metadata.variant) := by
  have lead : "Link to job on registry info site: " ++ Registry.steps ++ "/job?org=" =
      "Link to job on registry info site: https://steps.ci.openshift.org/job?org=" := rfl
  unfold jobLink jobPage
  dsimp only
  rw [lead]

/-- The parameter of a variant makes a link longer. -/
theorem append_variant_ne (link variant : String) : link ++ ("&variant=" ++ variant) ≠ link := by
  intro same
  have sizes := congrArg String.length same
  simp only [String.length_append] at sizes
  have size : "&variant=".length = 9 := rfl
  omega

/-- The link to a job is the one without its variant exactly if it has none. -/
theorem jobLink_eq_jobPage_iff {plan : Plan} :
    jobLink plan = jobPage plan ↔ plan.build.metadata.variant = "" := by
  rw [jobLink_eq]
  by_cases plain : plan.build.metadata.variant = ""
  · rw [if_pos plain, String.append_empty]
    exact ⟨fun _ => plain, fun _ => rfl⟩
  · rw [if_neg plain]
    constructor
    · intro same
      exact absurd same (append_variant_ne _ _)
    · intro empty
      exact absurd empty plain

/-- The link to a job ends with the parameter of a variant exactly if the job has this variant. -/
theorem jobLink_eq_variant_iff {plan : Plan} {variant : String} :
    jobLink plan = jobPage plan ++ "&variant=" ++ variant ↔
      variant ≠ "" ∧ plan.build.metadata.variant = variant := by
  rw [jobLink_eq, String.append_assoc]
  by_cases plain : plan.build.metadata.variant = ""
  · rw [if_pos plain, String.append_empty]
    constructor
    · intro same
      exact absurd same.symm (append_variant_ne _ _)
    · rintro ⟨named, rfl⟩
      exact absurd plain named
  · rw [if_neg plain, String.append_right_inj, String.append_right_inj]
    constructor
    · rintro rfl
      exact ⟨plain, rfl⟩
    · rintro ⟨_, same⟩
      exact same

/-- What a link to a job tells of it. -/
def jobFields (plan : Plan) : List (String × String) :=
  [("org", plan.build.metadata.org), ("repo", plan.build.metadata.repo),
      ("branch", plan.build.metadata.branch), ("test", plan.test)] ++
    if plan.build.metadata.variant = "" then [] else [("variant", plan.build.metadata.variant)]

/-- The names in a link to a job have no marks. -/
theorem plain_of_mem_jobFields {plan : Plan} {entry : String × String}
    (member : entry ∈ jobFields plan) : '=' ∉ entry.1.toList ∧ '&' ∉ entry.1.toList := by
  have known : entry.1 ∈ ["org", "repo", "branch", "test", "variant"] := by
    unfold jobFields at member
    by_cases plain : plan.build.metadata.variant = ""
    · rw [if_pos plain] at member
      have names := List.mem_map_of_mem (f := Prod.fst) member
      exact List.mem_append_left ["variant"] names
    · rw [if_neg plain] at member
      exact List.mem_map_of_mem (f := Prod.fst) member
  have all : ∀ name ∈ ["org", "repo", "branch", "test", "variant"],
      '=' ∉ name.toList ∧ '&' ∉ name.toList := by
    decide
  exact all entry.1 known

/-- The query of a link to a job tells what there is to tell of it. -/
theorem jobLink_eq_query (plan : Plan) :
    jobLink plan = "Link to job on registry info site: https://steps.ci.openshift.org/job" ++
      String.singleton '?' ++
        (String.singleton '&').intercalate ((jobFields plan).map Text.assignment) := by
  -- The texts between two values are cut into the mark, the name and the equals sign.
  have org : "Link to job on registry info site: https://steps.ci.openshift.org/job?org=" =
      "Link to job on registry info site: https://steps.ci.openshift.org/job" ++
        String.singleton '?' ++ ("org" ++ "=") := rfl
  have repo : "&repo=" = String.singleton '&' ++ ("repo" ++ "=") := rfl
  have branch : "&branch=" = String.singleton '&' ++ ("branch" ++ "=") := rfl
  have test : "&test=" = String.singleton '&' ++ ("test" ++ "=") := rfl
  have variant : "&variant=" = String.singleton '&' ++ ("variant" ++ "=") := rfl
  rw [jobLink_eq]
  unfold jobFields jobPage
  by_cases plain : plan.build.metadata.variant = ""
  · simp only [plain, if_true, List.append_nil, List.map_cons, List.map_nil, Text.assignment,
      String.intercalate_cons_cons, String.intercalate_singleton, String.append_assoc,
      String.append_empty, org, repo, branch, test, -String.reduceAppend]
  · simp only [plain, if_false, List.cons_append, List.nil_append, List.map_cons, List.map_nil,
      Text.assignment, String.intercalate_cons_cons, String.intercalate_singleton,
      String.append_assoc, org, repo, branch, test, variant, -String.reduceAppend]

/-- What a link to a job tells of it is read from the link, if no value has an ampersand. -/
theorem queryFields_jobLink {plan : Plan}
    (clean : ∀ entry ∈ jobFields plan, '&' ∉ entry.2.toList) :
    (Text.splitAt? '?' (jobLink plan)).map (fun (_, query) => Text.queryFields query) =
      some (jobFields plan) := by
  have lead : '?' ∉
      "Link to job on registry info site: https://steps.ci.openshift.org/job".toList := by
    decide
  have split := Text.splitAt?_eq_some_iff.2 ⟨lead, jobLink_eq_query plan⟩
  rw [split, Option.map_some]
  dsimp only
  rw [Text.queryFields_intercalate _ (fun _ => plain_of_mem_jobFields) clean]
  exact List.cons_ne_nil _ _

/-! ## What is told -/

/-- The status and the links in the failure of a step's pod tell of the step and of the end of the
wait for the pod. -/
structure Tells (plan : Plan) (step : Step) (error : WaitError) (status links : String) :
    Prop where
  /-- The status is a wording of what became of the pod. -/
  worded : step.Worded error status
  /-- It tells of a timeout exactly if the pod was seen to have run too long. -/
  timeout : (∃ rest, status = "exceeded the configured timeout" ++ rest) ↔
    ∃ pod, error.Carries pod ∧ pod.Overran
  /-- The link to the step ends with the name of the step, and the link to the job follows. -/
  linked : links =
    "Link to step on registry info site: https://steps.ci.openshift.org/reference/" ++ step.name ++
      "\n" ++ jobLink plan
  /-- Without a variant the link to the job has no parameter for one. -/
  plain : jobLink plan = jobPage plan ↔ plan.build.metadata.variant = ""
  /-- With a variant the link to the job has a parameter for it. -/
  varied : ∀ variant, jobLink plan = jobPage plan ++ "&variant=" ++ variant ↔
    variant ≠ "" ∧ plan.build.metadata.variant = variant
  /-- The parameters are read from the link to the job, if no value has the mark between them. -/
  queried : (∀ entry ∈ jobFields plan, '&' ∉ entry.2.toList) →
    (Text.splitAt? '?' (jobLink plan)).map (fun (_, query) => Text.queryFields query) =
      some (jobFields plan)

/-- The links for the pod of a step begin with the one to the step. -/
theorem links_pod (plan : Plan) (step : Step) :
    links plan (Naming.pod plan.test step.name) =
      "Link to step on registry info site: https://steps.ci.openshift.org/reference/" ++
        step.name ++ "\n" ++ jobLink plan := by
  have lead : "Link to step on registry info site: " ++ Registry.steps ++ "/reference/" =
      "Link to step on registry info site: https://steps.ci.openshift.org/reference/" := rfl
  unfold links stepLink
  rw [Naming.stepOfPod_pod, lead]

/-- A pod that is accepted and does not succeed is reported with the end of the wait for it. -/
theorem errors_runPod {σ : Type} {plan : Plan} {token : Token} {pod : Pod}
    {handler : Handler Cluster σ} {state : σ} {error : WaitError}
    (accepted : (handler (.submitPod pod) state).1 = Except.ok ())
    (wrong : Watch.result (handler (.awaitPod token plan.ns pod.displayName)
      (handler (.submitPod pod) state).2).1 = .error error) :
    ((runPod plan token pod).run handler state).1.errors = [podFailure plan pod error] := by
  have submitted : (Cluster.submitPod pod).run handler state = handler (.submitPod pod) state := rfl
  have awaited : ∀ later, (Cluster.awaitPod token plan.ns pod.displayName).run handler later =
      handler (.awaitPod token plan.ns pod.displayName) later := fun _ => rfl
  unfold runPod
  rw [Program.bind_eq, Program.run_bind, submitted, accepted]
  dsimp only
  rw [Program.bind_eq, Program.run_bind, awaited, Program.pure_eq, Program.run]
  dsimp only
  rw [wrong]

/-- Whatever a test and its step are called, whatever build the test belongs to, and however the
wait for the step's pod ends without its success, running the pod comes to one failure. It is that
of the pod that has the name of the test, a dash and the name of the step, it has the end of the
wait as its source, and its status and its links tell of the step and of that end. -/
theorem failure_of_step {σ : Type} {plan : Plan} {shared : List EnvVar} {step : Step} {pod : Pod}
    {building : History Cluster} (built : (Batch.buildPod plan shared step).Ends building (.ok pod))
    {token : Token} {handler : Handler Cluster σ} {state : σ} {error : WaitError}
    (accepted : (handler (.submitPod pod) state).1 = Except.ok ())
    (wrong : Watch.result (handler (.awaitPod token plan.ns (plan.test ++ "-" ++ step.name))
      (handler (.submitPod pod) state).2).1 = .error error) :
    ∃ status links, ((runPod plan token pod).run handler state).1.errors =
        [.podFailed plan.test (plan.test ++ "-" ++ step.name) status links error] ∧
      Tells plan step error status links := by
  obtain ⟨workload, rfl, rfl, rfl⟩ := Batch.workload_of_buildPod built
  have name : workload.pod.displayName = Naming.pod workload.plan.test workload.step.name := rfl
  have limit : workload.pod.activeDeadlineSeconds? = workload.step.activeDeadlineSeconds := rfl
  have worded := worded_status error limit
  refine ⟨_, _, errors_runPod accepted (name ▸ wrong), ?_⟩
  exact
    { worded
      timeout := worded.timeout_iff
      linked := links_pod workload.plan workload.step
      plain := jobLink_eq_jobPage_iff
      varied := fun _ => jobLink_eq_variant_iff
      queried := queryFields_jobLink }

/-- A step with the name of its test in front, and with its own time. -/
def slowStep : Step :=
  { (default : Step) with name := "e2e-slow", activeDeadlineSeconds := some 600 }

/-- A nightly test with this step. -/
def nightly : Plan where
  config := { (default : TestConfiguration) with name := "e2e", test := [slowStep] }
  build := { (default : BuildConfiguration) with
    metadata := { org := "org", repo := "repo", branch := "master", variant := "nightly" } }
  job := { ns := "ci", name := "nightly", owner := none }
  parameters := default

/-- The pod of the step. -/
def slowPod : Pod :=
  Workload.pod
    { plan := nightly, step := slowStep, shared := [], parameters := [], dependencies := [] }

/-- The wait for the pod is called off, and the pod was seen by then, without what it runs: it ran
too long. -/
def stopping : PodScript where
  finish := .interrupted
  status := some { phase := some "Failed", reason := some "DeadlineExceeded" }
  withoutSpec := true

/-- A cluster in which the pod is stopped. -/
def stoppingCluster : Rehearsal where
  scripts := .ofList [("e2e-e2e-slow", [stopping])]

set_option maxRecDepth 8000 in
/-- The step is told as it is called, with the time that it had. -/
theorem failure_of_step_slow :
    let error := WaitError.cancelled (some (Rehearsal.observed slowPod stopping))
    let status := "exceeded the configured timeout activeDeadlineSeconds=600"
    let links := "Link to step on registry info site: " ++
      "https://steps.ci.openshift.org/reference/e2e-slow\n" ++
      "Link to job on registry info site: https://steps.ci.openshift.org/job" ++
      "?org=org&repo=repo&branch=master&test=e2e&variant=nightly"
    ((runPod nightly .caller slowPod).run Rehearsal.handler stoppingCluster).1.errors =
        [.podFailed "e2e" "e2e-e2e-slow" status links error] ∧
      Tells nightly slowStep error status links := by
  intro error status links
  have built : (Batch.buildPod nightly [] slowStep).Ends [] (.ok slowPod) := .done _
  have accepted :
      (Rehearsal.handler (.submitPod slowPod) stoppingCluster).1 = Except.ok () := rfl
  have wrong : Watch.result (Rehearsal.handler (.awaitPod .caller "ci" "e2e-e2e-slow")
      (Rehearsal.handler (.submitPod slowPod) stoppingCluster).2).1 = .error error := rfl
  obtain ⟨told, linked, whole, tells⟩ := failure_of_step built accepted wrong
  have explicit : podFailure nightly slowPod error =
      .podFailed "e2e" "e2e-e2e-slow" status links error := rfl
  have same : ((runPod nightly .caller slowPod).run Rehearsal.handler stoppingCluster).1.errors =
      [podFailure nightly slowPod error] := errors_runPod accepted wrong
  rw [explicit] at same
  rw [same] at whole
  injection whole with only
  injection only with _ _ sameStatus sameLinks
  rw [← sameStatus, ← sameLinks] at tells
  exact ⟨same, tells⟩

end PhaseRun

end StagedTest
