import StagedTest.Proofs.RunHistory

/-!
# Which pods a run hands over

The pods of a run are handed over phase by phase and step by step. A failing pod ends preparation
and test, cleanup takes place whatever happens, and a phase with a step that cannot be built hands
over nothing. The main statement says exactly which pods are handed over and in which order, for
every plan and whatever the cluster answers.
-/
namespace StagedTest

open Program PhaseRun

/-! ## What is expected of a phase -/

/-- Whether a step is left out: the test allows it, the step is optional, and nothing has failed
before. -/
def Skipped (config : TestConfiguration) (failedBefore : Prop) (step : Step) : Prop :=
  config.allowSkipOnSuccess = some true ∧ step.optionalOnSuccess = some true ∧ ¬failedBefore

instance (config : TestConfiguration) (failedBefore : Prop) [Decidable failedBefore]
    (step : Step) : Decidable (Skipped config failedBefore step) :=
  inferInstanceAs (Decidable (_ ∧ _ ∧ _))

/-- The steps of a phase that are not left out, in order. -/
def includedSteps (config : TestConfiguration) (phase : Phase) (failedBefore : Prop)
    [Decidable failedBefore] : List Step :=
  (phase.steps config).filter fun step => ¬Skipped config failedBefore step

/-- The pods of the steps of a phase that are not left out, with the pull specs that were looked
up in the phase; none if any of the steps cannot be built. -/
def expectedPods (plan : Plan) (shared : List EnvVar) (phase : Phase) (failedBefore : Prop)
    [Decidable failedBefore] (history : History Cluster) : List Pod :=
  (Batch.podsOf? plan shared (includedSteps plan.config phase failedBefore)
    (lookups history)).getD []

/-- The images that were looked up, in order. -/
def lookedUp (history : History Cluster) : List ImageTag :=
  history.filterMap fun
    | ⟨.pullSpec _ image, _⟩ => some image
    | _ => none

/-- Whether a phase was told that it is called off. -/
def calledOff (history : History Cluster) : Bool :=
  history.any fun
    | ⟨.isCancelled _, cancelled⟩ => cancelled
    | _ => false

/-- A phase goes well when every step that is not left out can be built, no pod fails, and the
phase is not called off. -/
def GoesWell (plan : Plan) (shared : List EnvVar) (phase : Phase) (failedBefore : Prop)
    [Decidable failedBefore] (history : History Cluster) : Prop :=
  (Batch.podsOf? plan shared (includedSteps plan.config phase failedBefore)
    (lookups history)).isSome ∧ true ∉ failures history ∧ calledOff history = false

instance (plan : Plan) (shared : List EnvVar) (phase : Phase) (failedBefore : Prop)
    [Decidable failedBefore] (history : History Cluster) :
    Decidable (GoesWell plan shared phase failedBefore history) :=
  inferInstanceAs (Decidable (_ ∧ _ ∧ _))

/-- How a phase is conducted, told by its history and by the state that it ends in. -/
structure Conducted (plan : Plan) (shared : List EnvVar) (phase : Phase) (failedBefore : Prop)
    [Decidable failedBefore] (history : History Cluster) (state : PhaseState) : Prop where
  /-- Exactly the images of the steps that are not left out are looked up. -/
  looked : lookedUp history =
    (includedSteps plan.config phase failedBefore).flatMap Batch.images
  /-- The expected pods are handed over, up to the first failure where it ends the phase. -/
  handed : submissions history =
    if phase.stopsAtFailure then
      upToFailure (expectedPods plan shared phase failedBefore history) (failures history)
    else expectedPods plan shared phase failedBefore history
  /-- The phase succeeds exactly if it goes well. -/
  verdict : state =
    if GoesWell plan shared phase failedBefore history then .succeeded else .failed

/-- A step is left out exactly when the builder of batches leaves it out. -/
theorem isSkipped_iff (config : TestConfiguration) {failedBefore : Bool} {failed : Prop}
    (same : failedBefore = true ↔ failed) (step : Step) :
    Batch.isSkipped config failedBefore step = true ↔ Skipped config failed step := by
  have allowed : config.allowsSkip = true ↔ config.allowSkipOnSuccess = some true := by
    rw [TestConfiguration.allowsSkip]
    cases config.allowSkipOnSuccess <;> simp
  have optional : step.isOptional = true ↔ step.optionalOnSuccess = some true := by
    rw [Step.isOptional]
    cases step.optionalOnSuccess <;> simp
  rw [Skipped, ← same]
  simp [Batch.isSkipped, allowed, optional, and_assoc]

/-- The steps that a phase runs are those that are not left out. -/
theorem stepsToRun_eq (plan : Plan) (phase : Phase) {failedBefore : Bool} {failed : Prop}
    [Decidable failed] (same : failedBefore = true ↔ failed) :
    stepsToRun plan failedBefore phase = includedSteps plan.config phase failed := by
  apply List.filter_congr
  intro step _
  by_cases skipped : Skipped plan.config failed step
  · simp [skipped, (isSkipped_iff plan.config same step).2 skipped]
  · have kept := mt (isSkipped_iff plan.config same step).1 skipped
    simp [skipped, Bool.eq_false_iff.2 kept]

/-! ## Histories in parts -/

/-- The lookups of two histories follow each other. -/
theorem lookups_append (early late : History Cluster) :
    lookups (early ++ late) = lookups early ++ lookups late :=
  List.filterMap_append

/-- The images that are looked up in two histories follow each other. -/
theorem lookedUp_append (early late : History Cluster) :
    lookedUp (early ++ late) = lookedUp early ++ lookedUp late :=
  List.filterMap_append

/-- The submissions of two histories follow each other. -/
theorem submissions_append (early late : History Cluster) :
    submissions (early ++ late) = submissions early ++ submissions late :=
  List.filterMap_append

/-- Of two histories one has to tell that the phase is called off. -/
theorem calledOff_append (early late : History Cluster) :
    calledOff (early ++ late) = (calledOff early || calledOff late) :=
  List.any_append

/-- Lookups hand over nothing. -/
theorem submissions_lookupHistory (ns : String) (images : List ImageTag)
    (answers : List (Except ClientError String)) :
    submissions (Batch.lookupHistory ns images answers) = [] := by
  rw [submissions, Batch.lookupHistory, List.filterMap_map, List.filterMap_eq_nil_iff]
  intro lookup _
  rfl

/-- Lookups ask for their images. -/
theorem lookedUp_lookupHistory (ns : String) {images : List ImageTag}
    {answers : List (Except ClientError String)} (fits : answers.length = images.length) :
    lookedUp (Batch.lookupHistory ns images answers) = images := by
  have asked : lookedUp (Batch.lookupHistory ns images answers) =
      (images.zip answers).map (·.1) := by
    rw [lookedUp, Batch.lookupHistory, List.filterMap_map, ← List.filterMap_eq_map]
    rfl
  rw [asked, List.map_fst_zip (Nat.le_of_eq fits.symm)]

/-- Lookups do not tell whether the phase is called off. -/
theorem calledOff_lookupHistory (ns : String) (images : List ImageTag)
    (answers : List (Except ClientError String)) :
    calledOff (Batch.lookupHistory ns images answers) = false := by
  rw [calledOff, Batch.lookupHistory, List.any_map, List.any_eq_false]
  intro lookup _
  exact Bool.false_ne_true

/-- In lookups no pod fails, so all failures are those of what comes later. -/
theorem failures_lookupHistory_append (ns : String) (images : List ImageTag)
    (answers : List (Except ClientError String)) (later : History Cluster) :
    failures (Batch.lookupHistory ns images answers ++ later) = failures later := by
  rw [Batch.lookupHistory]
  induction images.zip answers with
  | nil => rfl
  | cons lookup rest ih => exact ih

/-- Turns ask for no images. -/
theorem Turn.lookedUp_turns (token : Token) (ns : String) (turns : List Turn) :
    lookedUp (turns.flatMap (Turn.history token ns)) = [] := by
  induction turns with
  | nil => rfl
  | cons turn rest ih =>
    obtain ⟨pod, outcome⟩ := turn
    rw [List.flatMap_cons, lookedUp_append, ih]
    cases outcome <;> rfl

/-- Turns do not tell whether the phase is called off. -/
theorem Turn.calledOff_turns (token : Token) (ns : String) (turns : List Turn) :
    calledOff (turns.flatMap (Turn.history token ns)) = false := by
  induction turns with
  | nil => rfl
  | cons turn rest ih =>
    obtain ⟨pod, outcome⟩ := turn
    rw [List.flatMap_cons, calledOff_append, ih]
    cases outcome <;> rfl

/-! ## What a phase hands over -/

/-- The whole history of a phase that has all its pods: lookups, turns, and the end. -/
def wholeHistory (plan : Plan) (token : Token) (images : List ImageTag)
    (answers : List (Except ClientError String)) (turns : List Turn)
    (closing : Option (Except ClientError Unit)) : History Cluster :=
  Batch.lookupHistory plan.ns images answers ++ turns.flatMap (Turn.history token plan.ns) ++
    closingHistory plan token closing

section WholeHistory

variable (plan : Plan) (token : Token) {images : List ImageTag}
  {answers : List (Except ClientError String)} (turns : List Turn)
  (closing : Option (Except ClientError Unit))

/-- The lookups of a phase are those that come first. -/
theorem lookups_wholeHistory (fits : answers.length = images.length) :
    lookups (wholeHistory plan token images answers turns closing) = answers := by
  have last : lookups (closingHistory plan token closing) = [] := by cases closing <;> rfl
  rw [wholeHistory, lookups_append, lookups_append, Batch.lookups_lookupHistory plan.ns fits,
    Turn.lookups_turns, last, List.append_nil, List.append_nil]

/-- The images of a phase are those that are looked up first. -/
theorem lookedUp_wholeHistory (fits : answers.length = images.length) :
    lookedUp (wholeHistory plan token images answers turns closing) = images := by
  have last : lookedUp (closingHistory plan token closing) = [] := by cases closing <;> rfl
  rw [wholeHistory, lookedUp_append, lookedUp_append, lookedUp_lookupHistory plan.ns fits,
    Turn.lookedUp_turns, last, List.append_nil, List.append_nil]

/-- The submissions of a phase are the pods that have their turns. -/
theorem submissions_wholeHistory :
    submissions (wholeHistory plan token images answers turns closing) = turns.map (·.pod) := by
  have last : submissions (closingHistory plan token closing) = [] := by cases closing <;> rfl
  rw [wholeHistory, submissions_append, submissions_append, submissions_lookupHistory,
    Turn.submissions_turns, last, List.nil_append, List.append_nil]

/-- A pod that has its turn is handed over. -/
theorem mem_submissions_wholeHistory {turns : List Turn} {turn : Turn} (member : turn ∈ turns) :
    turn.pod ∈ submissions (wholeHistory plan token images answers turns closing) := by
  rw [submissions_wholeHistory]
  exact List.mem_map_of_mem member

/-- The failures of a phase are the turns that fail. -/
theorem failures_wholeHistory :
    failures (wholeHistory plan token images answers turns closing) = turns.map Turn.fails := by
  have quiet : failures (closingHistory plan token closing) = [] := by cases closing <;> rfl
  rw [wholeHistory, List.append_assoc, failures_lookupHistory_append,
    Turn.failures_turns token plan.ns turns quiet]

/-- A phase is called off exactly if it has pods to delete at its end. -/
theorem calledOff_wholeHistory :
    calledOff (wholeHistory plan token images answers turns closing) = closing.isSome := by
  have told : calledOff (closingHistory plan token closing) = closing.isSome := by
    cases closing <;> rfl
  rw [wholeHistory, calledOff_append, calledOff_append, calledOff_lookupHistory,
    Turn.calledOff_turns, told, Bool.or_self, Bool.false_or]

end WholeHistory

/-- A phase that takes one of its courses is conducted as it should be. -/
theorem conducted_course {plan : Plan} {token : Token} {shared : List EnvVar}
    {failedBefore : Bool} {failed : Prop} [Decidable failed] {phase : Phase}
    {history : History Cluster} {outcome : Outcome} (same : failedBefore = true ↔ failed)
    (course : Course plan token shared failedBefore phase history outcome) :
    Conducted plan shared phase failed history
      (if outcome.errors = [] then .succeeded else .failed) := by
  have steps := stepsToRun_eq plan phase same
  cases course with
  | @unbuilt answers errors fits lacking wrong =>
    rw [steps] at fits lacking ⊢
    have known := Batch.lookups_lookupHistory plan.ns fits
    refine ⟨lookedUp_lookupHistory plan.ns fits, ?_, ?_⟩
    · rw [submissions_lookupHistory, expectedPods, known, lacking]
      simp [upToFailure]
    · rw [if_neg wrong, if_neg]
      rintro ⟨built, _⟩
      rw [known, lacking] at built
      cases built
  | @ran answers pods turns closing fits built order =>
    rw [steps] at fits built ⊢
    change Conducted plan shared phase failed (wholeHistory plan token
      ((includedSteps plan.config phase failed).flatMap Batch.images) answers turns closing) _
    have known := lookups_wholeHistory plan token turns closing fits
    refine ⟨lookedUp_wholeHistory plan token turns closing fits, ?_, ?_⟩
    · rw [expectedPods, known, built, failures_wholeHistory, submissions_wholeHistory]
      exact order
    · -- What goes wrong in such a phase is a failing turn, or that the phase is called off.
      have judged : (Turn.reports plan turns ++ { errors := closingErrors plan closing } :
          Outcome).errors = [] ↔ GoesWell plan shared phase failed (wholeHistory plan token
            ((includedSteps plan.config phase failed).flatMap Batch.images) answers turns
            closing) := by
        calc
          _ ↔ (Turn.reports plan turns).errors = [] ∧ closingErrors plan closing = [] :=
            List.append_eq_nil_iff
          _ ↔ (∀ turn ∈ turns, turn.fails = false) ∧ closing = none := by
            rw [Turn.reports_errors_eq_nil_iff, closingErrors_eq_nil_iff]
          _ ↔ _ := by
            rw [GoesWell, known, built, failures_wholeHistory, calledOff_wholeHistory]
            simp
      simp only [judged]

/-! ## What a run hands over -/

/-- Preparing a run hands over nothing. -/
theorem submissions_provision {plan : Plan} {history : History Cluster}
    {result : Except RunError (List EnvVar)}
    (ends : (Provision.all plan).run.Ends history result) : submissions history = [] := by
  rw [submissions, List.filterMap_eq_nil_iff]
  rintro ⟨asked, answer⟩ member
  have may := (Provision.prepares_all plan ends).1 _ member
  cases asked with
  | submitPod pod => cases may
  | _ => rfl

/-- The phases of a run are conducted as they should be: preparation first, then the test exactly
if the preparation has succeeded, and always the cleanup. -/
theorem conducted_stages {plan : Plan} {shared : List EnvVar} {progress after : Progress}
    {pre test post : History Cluster} {result : Except RunError Unit}
    (fresh : progress.phase .test = .notStarted)
    (stages : plan.Stages shared progress pre test post after result) :
    Conducted plan shared .pre False pre (after.phase .pre) ∧
      (after.phase .pre = .succeeded ∧
          Conducted plan shared .test False test (after.phase .test) ∨
        after.phase .pre = .failed ∧ test = [] ∧ after.phase .test = .notStarted) ∧
      Conducted plan shared .post (after.phase .pre = .failed ∨ after.phase .test = .failed) post
        (after.phase .post) := by
  have nothingBefore : false = true ↔ False := by simp
  cases stages with
  | @stopped _ first last prepared failed cleaned =>
    have ofPre : ((progress.ended .pre first).ended .post last).phase .pre = .failed := by
      simp [failed]
    have ofTest : ((progress.ended .pre first).ended .post last).phase .test = .notStarted := by
      simp [fresh]
    refine ⟨?_, .inr ⟨ofPre, rfl, ofTest⟩, ?_⟩
    · simpa using conducted_course nothingBefore prepared
    · rw [Progress.phase_ended _ .post .post, if_pos rfl]
      exact conducted_course ⟨fun _ => .inl ofPre, fun _ => rfl⟩ cleaned
  | @tested _ _ first second last prepared well tried cleaned =>
    have ofPre : (((progress.ended .pre first).ended .test second).ended .post last).phase .pre =
        .succeeded := by
      simp [well]
    have ofTest : (((progress.ended .pre first).ended .test second).ended .post last).phase .test =
        if second.errors = [] then .succeeded else .failed := by
      simp
    refine ⟨?_, .inl ⟨ofPre, ?_⟩, ?_⟩
    · simpa using conducted_course nothingBefore prepared
    · rw [ofTest]
      exact conducted_course nothingBefore tried
    · rw [Progress.phase_ended _ .post .post, if_pos rfl]
      refine conducted_course ?_ cleaned
      rw [ofPre, ofTest]
      cases second.errors <;> simp

/-- Once everything is provided, a run hands over exactly the expected pods: those of the
preparation up to the first failure, those of the test up to the first failure if the preparation
has succeeded, and all those of the cleanup. -/
theorem submissions_run {σ : Type} (plan : Plan) (progress : Progress)
    (handler : Handler Cluster σ) (state : σ) {shared : List EnvVar}
    (provided : ((Provision.all plan).run.run handler state).1 = .ok shared) :
    let history := (plan.run progress).trace handler state
    let after := ((plan.run progress).run handler state).1.1
    ∃ pre test post,
      history = (Provision.all plan).run.trace handler state ++ (pre ++ test ++ post) ∧
      Conducted plan shared .pre False pre (after.phase .pre) ∧
      (after.phase .pre = .succeeded ∧
          Conducted plan shared .test False test (after.phase .test) ∨
        after.phase .pre = .failed ∧ test = [] ∧ after.phase .test = .notStarted) ∧
      Conducted plan shared .post (after.phase .pre = .failed ∨ after.phase .test = .failed) post
        (after.phase .post) ∧
      submissions history =
        upToFailure (expectedPods plan shared .pre False pre) (failures pre) ++
          (if after.phase .pre = .succeeded then
            upToFailure (expectedPods plan shared .test False test) (failures test)
          else []) ++
          expectedPods plan shared .post
            (after.phase .pre = .failed ∨ after.phase .test = .failed) post := by
  intro history after
  have provision := ends_run handler (Provision.all plan).run state
  have phases := ends_run handler (plan.runPhases shared progress.restarted)
    ((Provision.all plan).run.run handler state).2
  have split : history = (Provision.all plan).run.trace handler state ++
      (plan.runPhases shared progress.restarted).trace handler
        ((Provision.all plan).run.run handler state).2 := by
    simp only [history, Plan.run, bind_eq, trace_bind, provided]
  have ended : after = ((plan.runPhases shared progress.restarted).run handler
      ((Provision.all plan).run.run handler state).2).1.1 := by
    simp only [after, Plan.run, bind_eq, run_bind, provided]
  obtain ⟨pre, test, post, whole, stages⟩ := Plan.ends_runPhases phases
  rw [← ended] at stages
  have conducted := conducted_stages rfl stages
  refine ⟨pre, test, post, ?_, conducted.1, conducted.2.1, conducted.2.2, ?_⟩
  · rw [split, whole]
  · obtain ⟨first, second, last⟩ := conducted
    rw [split, whole, submissions_append, submissions_provision provision, List.nil_append,
      submissions_append, submissions_append, last.handed]
    have ofPre := first.handed
    rw [ofPre]
    congr 2
    rcases second with ⟨succeeded, second⟩ | ⟨failed, rfl, _⟩
    · rw [if_pos succeeded]
      exact second.handed
    · rw [failed]
      rfl

/-- Where every pod is refused, the small test hands over its first pod and the pod that cleans
up. -/
theorem submissions_run_refused :
    ((Provision.all .small).run.run Rehearsal.handler (.small [.refusing .pod])).1 = .ok [] ∧
      (submissions ((Plan.run .small .initial).trace Rehearsal.handler
        (.small [.refusing .pod]))).map (·.displayName) = ["e2e-prepare", "e2e-cleanup"] := by
  have provided :
      ((Provision.all .small).run.run Rehearsal.handler (.small [.refusing .pod])).1 = .ok [] := rfl
  obtain ⟨pre, test, post, _, _, _, _, order⟩ :=
    submissions_run .small .initial Rehearsal.handler (.small [.refusing .pod]) provided
  have stopped : ((Plan.run .small .initial).run Rehearsal.handler
      (.small [.refusing .pod])).1.1.phase .pre = .failed := rfl
  have first : (upToFailure (expectedPods .small [] .pre False pre) (failures pre)).map
      (·.displayName) = ["e2e-prepare"] := by
    rcases failures pre with _ | ⟨_ | _, later⟩ <;> rfl
  refine ⟨provided, ?_⟩
  rw [order, List.map_append, List.map_append, first, stopped]
  rfl

end StagedTest
