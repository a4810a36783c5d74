import StagedTest.Rehearsal
import StagedTest.Proofs.Failures
import StagedTest.Proofs.RunHistory

/-!
# Calling a run off

Whoever has started a run may call it off at any time. A phase looks for that once, after its last
pod, and what it finds becomes part of its failure. The main statement says that no such call is
lost: whatever else goes wrong, a run whose preparation or test was called off fails in a way that
says so, as long as all steps of that phase could be built. Where a step cannot be built the phase
has ended before it looks, and the second statement shows that nothing is said then.

A phase ends with this look, or with the deletion that follows it when it finds the run called off.
After a look that finds nothing the phase only gathers its errors: a run that is called off between
that look and the return counts as called off after the phase.
-/
namespace StagedTest

open Program

/-- Looking whether a run is called off tells what holds when the look is over. When the run is
called off later than that, if only before the next look, then the next look tells it. -/
def Token.ToldBy {σ : Type} (token : Token) (handler : Handler Cluster σ) (cancelled : σ → Bool) :
    Prop :=
  ∀ state, (handler (.isCancelled token) state).1 =
    cancelled (handler (.isCancelled token) state).2

/-- All steps of a phase that are not left out can be built. -/
def PhaseRun.Builds {σ : Type} (plan : Plan) (shared : List EnvVar) (failedBefore : Bool)
    (phase : Phase) (handler : Handler Cluster σ) (state : σ) : Prop :=
  ((Batch.ofPhase plan shared failedBefore phase).run handler state).1.errors = []

namespace Program

/-- The state in which a run ends is what its calls have made of the one that it began in. -/
theorem run_state {I : Interface} {α σ : Type} (handler : Handler I σ) (program : Program I α)
    (state : σ) :
    (program.run handler state).2 =
      (program.trace handler state).foldl (fun state event => (handler event.1 state).2) state := by
  induction program generalizing state with
  | done value => rfl
  | call asked next ih => exact ih _ _

end Program

section

variable {σ : Type} {handler : Handler Cluster σ} {cancelled : σ → Bool} {state : σ}

/-! ## Phases that are called off -/

namespace PhaseRun

variable {plan : Plan} {token : Token} {shared : List EnvVar} {failedBefore : Bool}
  {phase : Phase}

/-- A phase that is called off when it has come to its end has found that out. -/
theorem cancelled_mem_cleanUp (told : token.ToldBy handler cancelled)
    (calledOff : cancelled ((cleanUp plan token).run handler state).2 = true) :
    RunError.cancelled ∈ ((cleanUp plan token).run handler state).1 := by
  obtain ⟨closing, asked, errors⟩ := ends_cleanUp (ends_run handler (cleanUp plan token) state)
  rw [errors]
  cases closing with
  | some deleted =>
    cases judged : ClientError.tolerate .notFound deleted <;> simp [closingErrors, judged]
  | none =>
    -- A phase that was told that it goes on has no call left in which it could be called off.
    rw [run_state, asked] at calledOff
    have answer : (handler (.isCancelled token) state).1 = false :=
      eq_of_heq (Sigma.mk.inj (List.cons.inj asked).1).2
    exact absurd (answer.symm.trans ((told state).trans calledOff)) Bool.false_ne_true

/-- A phase that can be built, and is called off when it has come to its end, fails and says so. -/
theorem cancelled_mem_errors (told : token.ToldBy handler cancelled)
    (built : Builds plan shared failedBefore phase handler state)
    (calledOff :
      cancelled ((run plan token shared failedBefore phase).run handler state).2 = true) :
    RunError.cancelled ∈
      ((run plan token shared failedBefore phase).run handler state).1.errors := by
  have empty : ((Batch.ofPhase plan shared failedBefore phase).run handler state).1.errors.isEmpty =
      true := by rw [built]; rfl
  simp only [run, bind_eq, pure_eq, run_bind, empty, if_true, Program.run] at calledOff ⊢
  exact List.mem_append_right _ (cancelled_mem_cleanUp told calledOff)

end PhaseRun

namespace Plan

variable {plan : Plan} {shared : List EnvVar}

/-- What comes of a phase decides how far the test has come and what is listed. -/
theorem run_runPhase (plan : Plan) (token : Token) (shared : List EnvVar) (failedBefore : Bool)
    (phase : Phase) (progress : Progress) (handler : Handler Cluster σ) (state : σ) :
    (plan.runPhase token shared failedBefore phase progress).run handler state =
      ((progress.ended phase
          ((PhaseRun.run plan token shared failedBefore phase).run handler state).1,
        plan.phaseErrors phase (RunError.collect
          ((PhaseRun.run plan token shared failedBefore phase).run handler state).1.errors)),
        ((PhaseRun.run plan token shared failedBefore phase).run handler state).2) := by
  simp only [runPhase, bind_eq, pure_eq, run_bind, Program.run]
  rfl

/-- A phase in which something goes wrong because it is called off lists a failure that says so. -/
theorem isCancelled_phaseErrors (plan : Plan) (phase : Phase) {errors : List RunError}
    (member : RunError.cancelled ∈ errors) :
    ∃ error ∈ plan.phaseErrors phase (RunError.collect errors), error.isCancelled = true := by
  obtain ⟨source, failed, reported⟩ := RunError.isCancelled_collect member rfl
  rw [failed]
  exact ⟨_, List.mem_singleton_self _, reported⟩

/-- Before the cleanup a run lists the failure of the preparation, or else that of the test. -/
theorem listed_runBeforeCleanup (plan : Plan) (shared : List EnvVar) (progress : Progress)
    (handler : Handler Cluster σ) (state : σ) :
    let pre := (PhaseRun.run plan .caller shared false .pre).run handler state
    let test := (PhaseRun.run plan .caller shared false .test).run handler pre.2
    ((plan.runBeforeCleanup shared progress).run handler state).1.2 =
      if pre.1.errors = [] then plan.phaseErrors .test (RunError.collect test.1.errors)
      else plan.phaseErrors .pre (RunError.collect pre.1.errors) := by
  intro pre test
  simp only [runBeforeCleanup, bind_eq, pure_eq, run_bind, run_runPhase]
  rcases phaseErrors_collect plan .pre pre.1.errors with ⟨well, none⟩ | ⟨failed, source, one⟩
  · rw [if_pos well]
    simp only [pre] at none
    simp only [none, List.isEmpty_nil, if_true, run_runPhase]
    rfl
  · rw [if_neg failed]
    simp only [pre] at one
    simp only [pre, one, List.isEmpty_cons, Bool.false_eq_true, if_false, Program.run]

/-- Once everything is provided, the result of a run holds together what is listed before the
cleanup and what is listed in it. -/
theorem result_run {plan : Plan} (progress : Progress) {handler : Handler Cluster σ}
    {shared : List EnvVar} {provisioned : σ}
    (provided : (Provision.all plan).run.run handler state = (.ok shared, provisioned)) :
    ∃ cleanup, ((plan.run progress).run handler state).1.2 = RunError.collect
      (((plan.runBeforeCleanup shared progress.restarted).run handler provisioned).1.2 ++
        cleanup) := by
  simp only [Plan.run, bind_eq, pure_eq, run_bind, provided, runPhases, Program.run]
  exact ⟨_, rfl⟩

/-- Once everything is provided, a run whose preparation or test is called off by the time that it
has come to its end, and whose steps in that phase can all be built, fails and says that it was
called off. A phase has come to its end with its last look at the token, or with the deletion that
this look has led to: a run that is called off between the look and the return is called off after
the phase. -/
theorem isCancelled_of_calledOff {σ : Type} (plan : Plan) (progress : Progress)
    (handler : Handler Cluster σ) (state : σ) (cancelled : σ → Bool)
    (told : Token.caller.ToldBy handler cancelled) {shared : List EnvVar} {provisioned : σ}
    (provided : (Provision.all plan).run.run handler state = (.ok shared, provisioned)) :
    let pre := (PhaseRun.run plan .caller shared false .pre).run handler provisioned
    let test := (PhaseRun.run plan .caller shared false .test).run handler pre.2
    PhaseRun.Builds plan shared false .pre handler provisioned ∧ cancelled pre.2 = true ∨
        pre.1.errors = [] ∧ PhaseRun.Builds plan shared false .test handler pre.2 ∧
          cancelled test.2 = true →
      ∃ error, ((plan.run progress).run handler state).1.2 = .error error ∧
        error.isCancelled = true := by
  intro pre test calledOff
  obtain ⟨cleanup, result⟩ := result_run progress provided
  have listed := listed_runBeforeCleanup plan shared progress.restarted handler provisioned
  obtain ⟨cause, member, reported⟩ : ∃ cause ∈ ((plan.runBeforeCleanup shared
      progress.restarted).run handler provisioned).1.2, cause.isCancelled = true := by
    rw [listed]
    rcases calledOff with ⟨built, late⟩ | ⟨well, built, late⟩
    · have told := PhaseRun.cancelled_mem_errors told built late
      rw [if_neg (List.ne_nil_of_mem told)]
      exact isCancelled_phaseErrors plan .pre told
    · rw [if_pos well]
      exact isCancelled_phaseErrors plan .test (PhaseRun.cancelled_mem_errors told built late)
  rw [result]
  exact RunError.isCancelled_collect (List.mem_append_left _ member) reported

/-- The caller has called the small test off before its preparation ends. -/
theorem isCancelled_of_calledOff_small :
    ((Provision.all .small).run.run Rehearsal.handler
        { Rehearsal.small [] with callerCancelled := true }).1 = .ok [] ∧
      ∃ error, ((Plan.run .small .initial).run Rehearsal.handler
          { Rehearsal.small [] with callerCancelled := true }).1.2 = .error error ∧
        error.isCancelled = true := by
  refine ⟨rfl, isCancelled_of_calledOff .small .initial Rehearsal.handler _
    (·.callerCancelled) (fun _ => rfl) rfl (.inl ⟨rfl, rfl⟩)⟩

/-- A test whose only step asks for an amount that is not a quantity. -/
def unbuildable : Plan :=
  { small with
    config := { small.config with
      pre := [{ (default : Step) with
        name := "prepare"
        resources := { requests := .ofList [("cpu", "much")], limits := ∅ } }] } }

/-- Where a step of the preparation cannot be built, the run fails without a word of having been
called off. -/
theorem not_isCancelled_unbuildable :
    let start : Rehearsal := { callerCancelled := true }
    let provisioned := ((Provision.all unbuildable).run.run Rehearsal.handler start).2
    ((Provision.all unbuildable).run.run Rehearsal.handler start).1 = .ok [] ∧
      ((PhaseRun.run unbuildable .caller [] false .pre).run Rehearsal.handler
        provisioned).2.callerCancelled = true ∧
      ∃ error, ((unbuildable.run .initial).run Rehearsal.handler start).1.2 = .error error ∧
        error.isCancelled = false := by
  exact ⟨rfl, rfl, _, rfl, rfl⟩

end Plan

end

end StagedTest
