import StagedTest.Proofs.BeforeCleanup
import StagedTest.Proofs.Cancellation
import StagedTest.Proofs.Cleanup

/-!
# The cleanup is out of the caller's reach

The cleanup of a run has a token of its own, and no call that is made in it is handed the caller's.
So a cluster that learns of a token only where the token is handed to it answers the cleanup in the
same way whatever the caller does meanwhile. The main statement says so of any two runs that have
come to their cleanup alike: they ask for the same and end the same, whether and whenever the
caller calls one of them off after that. The cluster of rehearsals is shown to be of this kind.
-/
namespace StagedTest

open Program PhaseRun

/-! ## Handlers that are not handed a token -/

/-- The token that a call is handed. -/
def ClusterCall.token? : ClusterCall → Option Token
  | .awaitPod token _ _ | .isCancelled token => some token
  | _ => none

/-- Two handlers answer alike, whatever has become of a token, as long as they are not handed it:
where views of their states show no difference before a call, there is none in the answers and
none after it. -/
def Token.Hidden {σ τ κ : Type} (token : Token) (first : Handler Cluster σ)
    (second : Handler Cluster τ) (view : σ → κ) (other : τ → κ) : Prop :=
  ∀ asked, ClusterCall.token? asked ≠ some token → ∀ state state', view state = other state' →
    (first asked state).1 = (second asked state').1 ∧
      view (first asked state).2 = other (second asked state').2

section

variable {α σ τ κ : Type} {first : Handler Cluster σ} {second : Handler Cluster τ} {view : σ → κ}
  {other : τ → κ} {state : σ} {state' : τ}

/-- A program that hands a token to nobody is run alike whatever has become of the token. -/
theorem Token.Hidden.run {token : Token} (hidden : token.Hidden first second view other)
    (program : Program Cluster α) (same : view state = other state')
    (kept : ∀ event ∈ program.trace first state, ClusterCall.token? event.1 ≠ some token) :
    program.trace first state = program.trace second state' ∧
      (program.run first state).1 = (program.run second state').1 ∧
      view (program.run first state).2 = other (program.run second state').2 := by
  induction program generalizing state state' with
  | done value => exact ⟨rfl, rfl, same⟩
  | call asked next ih =>
    obtain ⟨now, later⟩ := List.forall_mem_cons.1 kept
    obtain ⟨answer, after⟩ := hidden asked now state state' same
    obtain ⟨asks, ends, leaves⟩ := ih _ after later
    rw [answer] at asks ends leaves
    refine ⟨?_, ?_, ?_⟩
    · calc
        _ = ⟨asked, (first asked state).1⟩ ::
            (next (first asked state).1).trace first (first asked state).2 := rfl
        _ = ⟨asked, (second asked state').1⟩ ::
            (next (second asked state').1).trace second (second asked state').2 := by
          rw [answer, asks]
    · change ((next (first asked state).1).run first (first asked state).2).1 = _
      rw [answer]
      exact ends
    · change view ((next (first asked state).1).run first (first asked state).2).2 = _
      rw [answer]
      exact leaves

/-- No call of a phase is handed another token than the phase's own. -/
theorem PhaseRun.Course.token?_ne {plan : Plan} {own token : Token} {shared : List EnvVar}
    {failedBefore : Bool} {phase : Phase} {history : History Cluster} {outcome : Outcome}
    (course : Course plan own shared failedBefore phase history outcome) (apart : own ≠ token) :
    ∀ event ∈ history, ClusterCall.token? event.1 ≠ some token := by
  rintro ⟨asked, answer⟩ member handed
  cases course.asks _ member with
  | wait | look => exact apart (Option.some.inj handed)
  | lookup | submission | deletion => cases handed

namespace Plan

/-! ## The rest of a run -/

/-- What a run asks for once its cleanup has begun is what its last phase asks for. -/
theorem trace_conclude (plan : Plan) (progress : Progress) (interim : Interim)
    (handler : Handler Cluster σ) (state : σ) :
    (plan.conclude progress (.ok interim)).trace handler state =
      (PhaseRun.run plan .detached interim.shared (!interim.errors.isEmpty) .post).trace handler
        state := by
  simp [conclude, runPhase, trace_bind, trace]

/-- What comes of the last phase decides how a run ends. -/
theorem run_conclude (plan : Plan) (progress : Progress) (interim : Interim)
    (handler : Handler Cluster σ) (state : σ) :
    let cleanup := (PhaseRun.run plan .detached interim.shared (!interim.errors.isEmpty)
      .post).run handler state
    (plan.conclude progress (.ok interim)).run handler state =
      ((interim.progress.ended .post cleanup.1, RunError.collect (interim.errors ++
        plan.phaseErrors .post (RunError.collect cleanup.1.errors))), cleanup.2) := by
  intro cleanup
  simp only [conclude, bind_eq, pure_eq, run_bind, run_runPhase, Program.run]
  rfl

/-- Two runs on clusters that learn of the caller's token only where it is handed to them, and that
have come to their cleanup alike, go on alike: they ask for the same, the same becomes of the
cleanup and of the cases that are listed, and the results are the same. All of this is so whatever
the caller does after that moment, since none of the calls is handed the caller's token. Pods are
deleted only if the cleanup's own token says so. -/
theorem cleanup_shielded (plan : Plan) (progress progress' : Progress) (start : σ) (start' : τ)
    (hidden : Token.caller.Hidden first second view other) {interim : Interim}
    (began : ((plan.untilCleanup progress).run first start).1 = .ok interim)
    (began' : ((plan.untilCleanup progress').run second start').1 = .ok interim)
    (same : view ((plan.untilCleanup progress).run first start).2 =
      other ((plan.untilCleanup progress').run second start').2) :
    ∃ post,
      (plan.run progress).trace first start =
        (plan.untilCleanup progress).trace first start ++ post ∧
      (plan.run progress').trace second start' =
        (plan.untilCleanup progress').trace second start' ++ post ∧
      ((plan.run progress).run first start).1 = ((plan.run progress').run second start').1 ∧
      view ((plan.run progress).run first start).2 =
        other ((plan.run progress').run second start').2 ∧
      (∀ event ∈ post, ClusterCall.token? event.1 ≠ some .caller) ∧
      (calledOff post = false → deletions post = []) := by
  have course := PhaseRun.course (Program.ends_run first (PhaseRun.run plan .detached interim.shared
    (!interim.errors.isEmpty) .post) ((plan.untilCleanup progress).run first start).2)
  have apart : Token.detached ≠ Token.caller := by decide
  have kept := course.token?_ne apart
  obtain ⟨asks, ends, leaves⟩ := hidden.run _ same kept
  simp only [run_eq_bind, trace_bind, run_bind, began, began', trace_conclude, run_conclude]
  refine ⟨_, rfl, ?_, ?_, leaves, kept, fun goesOn => course.deletions_eq_nil (.inr goesOn)⟩
  · rw [asks]
  · rw [ends]

end Plan

end

/-! ## Rehearsals -/

namespace Rehearsal

variable {α β : Type}

/-- A rehearsal as it is if nobody has called the run off. -/
def unheard (state : Rehearsal) : Rehearsal := { state with callerCancelled := false }

/-- An act that goes as if nobody had called the run off. -/
def Deaf (act : Act α) : Prop :=
  ∀ state, (act state).1 = (act state.unheard).1 ∧
    (act state).2.unheard = (act state.unheard).2.unheard

/-- One act after the other goes as if nobody had called the run off if both do. -/
theorem Deaf.bind {first : Act α} {second : α → Act β} (head : Deaf first)
    (tail : ∀ value, Deaf (second value)) : Deaf (first >>= second) := by
  intro state
  obtain ⟨value, left⟩ := head state
  obtain ⟨answer, after⟩ := tail (first state).1 (first state).2
  obtain ⟨answer', after'⟩ := tail (first state).1 (first state.unheard).2
  rw [left] at answer after
  change (second (first state).1 (first state).2).1 =
      (second (first state.unheard).1 (first state.unheard).2).1 ∧
    (second (first state).1 (first state).2).2.unheard =
      (second (first state.unheard).1 (first state.unheard).2).2.unheard
  rw [← value]
  exact ⟨answer.trans answer'.symm, after.trans after'.symm⟩

/-- An act without calls goes as if nobody had called the run off. -/
theorem deaf_pure (value : α) : Deaf (pure value : Act α) := fun _ => ⟨rfl, rfl⟩

/-- A single call goes as if nobody had called the run off. -/
theorem deaf_act {method what recordedKind ns name : String} {body : Option Value}
    {effect : Store → Except ClientError (α × Store)} :
    Deaf (act method what recordedKind ns name body effect) := fun _ => ⟨rfl, rfl⟩

/-- Handing over a pod goes as if nobody had called the run off. -/
theorem deaf_submitPod (pod : Pod) : Deaf (submitPod pod) := by
  have creating : Deaf (create (pod.metadata.ns.getD "") (.pod pod)) := deaf_act
  refine creating.bind fun created => ?_
  cases created with
  | ok accepted => exact deaf_pure _
  | error error =>
    dsimp only
    split
    · refine deaf_act.bind fun deleted => ?_
      split
      · exact deaf_act
      · exact deaf_pure _
    · exact deaf_pure _

/-- A wait that the caller cannot call off goes as if nobody had called the run off. -/
theorem deaf_awaitPod (ns name : String) : Deaf (awaitPod .detached ns name) := by
  refine deaf_act.bind fun result => ?_
  cases result with
  | error error => exact deaf_pure _
  | ok object =>
    have scripted : Deaf (nextScript name) := fun _ => ⟨rfl, rfl⟩
    refine scripted.bind fun script => ?_
    have finished : ∀ pod, Deaf (finishPod .detached ns name pod script) := fun _ _ => ⟨rfl, rfl⟩
    exact (finished _).bind fun _ => deaf_pure _

/-- A call that is not handed the caller's token goes as if nobody had called the run off. -/
theorem deaf_handler (asked : ClusterCall) (kept : asked.token? ≠ some .caller) :
    Deaf (handler asked) := by
  cases asked with
  | create | deleteSecret | deletePods => exact deaf_act
  | readSecret => exact deaf_act.bind fun _ => deaf_pure _
  | submitPod pod => exact deaf_submitPod pod
  | pullSpec => exact fun _ => ⟨rfl, rfl⟩
  | awaitPod token ns name =>
    cases token with
    | caller => exact absurd rfl kept
    | detached => exact deaf_awaitPod ns name
  | isCancelled token =>
    cases token with
    | caller => exact absurd rfl kept
    | detached => exact fun _ => ⟨rfl, rfl⟩

/-- Answers a run that the caller calls off as soon as enough calls were written down. -/
def callingOff (moment : Nat) : Handler Cluster Rehearsal := fun asked state =>
  let (answer, after) := handler asked state
  (answer, { after with
    callerCancelled := after.callerCancelled || decide (moment ≤ after.calls.length) })

/-- Rehearsals learn of the caller's token only where it is handed to them, and the moment at which
the caller calls the run off makes no other difference. -/
theorem hidden_callingOff (moment : Nat) :
    Token.caller.Hidden handler (callingOff moment) unheard unheard := by
  intro asked kept state state' same
  obtain ⟨answer, after⟩ := deaf_handler asked kept state
  obtain ⟨answer', after'⟩ := deaf_handler asked kept state'
  rw [same] at answer after
  exact ⟨answer.trans answer'.symm, after.trans after'.symm⟩

end Rehearsal

/-- The small test goes on as it would have done when the caller calls it off while its cleanup is
under way. -/
theorem Plan.cleanup_shielded_small :
    let quiet := (Plan.run .small .initial).run Rehearsal.handler (.small [])
    let calledOff := (Plan.run .small .initial).run (Rehearsal.callingOff 10) (.small [])
    quiet.2.callerCancelled = false ∧ calledOff.2.callerCancelled = true ∧
      quiet.1.2 = .ok () ∧ quiet.1 = calledOff.1 := by
  intro quiet calledOff
  refine ⟨rfl, rfl, rfl, ?_⟩
  obtain ⟨_, _, _, ended, _⟩ := cleanup_shielded .small .initial .initial (.small []) (.small [])
    (Rehearsal.hidden_callingOff 10) rfl rfl rfl
  exact ended

end StagedTest
