import StagedTest.Client.Watch
import StagedTest.Proofs.Submissions

/-!
# Runs before their cleanup

Whoever has started a run may call it off until its cleanup begins. So a run is cut in two at that
point: `Plan.untilCleanup` is what comes before, and `Plan.conclude` is what remains. Between its
pods a phase does not look whether it is called off. Still the main statement says that at most one
pod is handed over before the cleanup once the run was called off: the wait for that pod fails and
ends its phase, and at the end of a preparation the run finds out that it is called off and leaves
the test out.
-/
namespace StagedTest

open Program PhaseRun

/-! ## The cut -/

/-- How far a run has come when its cleanup begins. -/
structure Interim where
  /-- The environment that all steps share. -/
  shared : List EnvVar
  /-- What can be seen of the test. -/
  progress : Progress
  /-- What has failed. -/
  errors : List RunError

namespace Plan

/-- Runs a test up to its cleanup, unless preparing the run fails. -/
def untilCleanup (plan : Plan) (progress : Progress) :
    Program Cluster (Except RunError Interim) := do
  match ← (Provision.all plan).run with
  | .ok shared =>
    let (progress, errors) ← plan.runBeforeCleanup shared progress.restarted
    return .ok { shared, progress, errors }
  | .error error => return .error error

/-- What remains of a run when its cleanup begins, or when preparing it has failed. -/
def conclude (plan : Plan) (progress : Progress) :
    Except RunError Interim → Program Cluster (Progress × Except RunError Unit)
  | .ok interim => do
    let (progress, cleanup) ←
      plan.runPhase .detached interim.shared (!interim.errors.isEmpty) .post interim.progress
    return (progress, RunError.collect (interim.errors ++ cleanup))
  | .error error => return (progress.restarted, .error error)

/-- A run is what comes before its cleanup and then what remains. -/
theorem run_eq_bind (plan : Plan) (progress : Progress) :
    plan.run progress = (plan.untilCleanup progress).bind (plan.conclude progress) := by
  simp only [run, untilCleanup, bind_eq, pure_eq, bind_assoc]
  congr 1
  funext provided
  cases provided with
  | error error => rfl
  | ok shared =>
    simp only [runPhases, bind_eq, pure_eq, bind_assoc]
    rfl

/-- What comes before the cleanup of a run is a preparation of the run that fails, or one that goes
well and is followed by the first phase, and by the second if nothing goes wrong in the first. -/
theorem ends_untilCleanup {plan : Plan} {progress : Progress} {history : History Cluster}
    {reached : Except RunError Interim} (ends : (plan.untilCleanup progress).Ends history reached) :
    (∃ error, (Provision.all plan).run.Ends history (.error error)) ∨
      ∃ shared early pre test first, history = early ++ (pre ++ test) ∧
        (Provision.all plan).run.Ends early (.ok shared) ∧
        Course plan .caller shared false .pre pre first ∧
        (test = [] ∨ first.errors = [] ∧
          ∃ second, Course plan .caller shared false .test test second) := by
  simp only [untilCleanup, runBeforeCleanup, bind_eq, pure_eq, ends_bind_iff] at ends
  obtain ⟨early, _, provided, rfl, prepared, rest⟩ := ends
  cases provided with
  | error error =>
    obtain ⟨rfl, _⟩ := ends_done_iff.1 rest
    rw [List.append_nil]
    exact .inl ⟨error, prepared⟩
  | ok shared =>
    simp only [ends_bind_iff, ends_done_iff] at rest
    obtain ⟨_, _, _, rfl, ⟨pre, test, _, rfl, began, went⟩, rfl, _⟩ := rest
    obtain ⟨first, course, rfl⟩ := ends_runPhase began
    rw [List.append_nil]
    refine .inr ⟨shared, early, pre, test, first, rfl, prepared, course, ?_⟩
    rcases phaseErrors_collect plan .pre first.errors with ⟨well, none⟩ | ⟨_, source, one⟩
    · rw [none] at went
      obtain ⟨second, tried, _⟩ := ends_runPhase went
      exact .inr ⟨well, second, tried⟩
    · rw [one] at went
      obtain ⟨rfl, _⟩ := ends_done_iff.1 went
      exact .inl rfl

end Plan

/-! ## Calls that come too late -/

/-- Whether a call is answered as one that begins after the caller has called the run off: looking
for that finds it, and a wait that the caller may call off does not end well. -/
def ClusterCall.isLate : (asked : ClusterCall) → asked.Answer → Bool
  | .isCancelled .caller, cancelled => cancelled
  | .awaitPod .caller _ _, watch => !watch.result.isOk
  | _, _ => true

/-- All calls of a history begin after the caller has called the run off. -/
abbrev Late (history : History Cluster) : Prop :=
  ∀ event ∈ history, ClusterCall.isLate event.1 event.2 = true

section

variable {α σ : Type} {handler : Handler Cluster σ} {cancelled : σ → Bool}

/-- A cluster in which a run that was called off stays called off, and every call that begins
afterwards is answered accordingly. -/
structure HeedsCaller (handler : Handler Cluster σ) (cancelled : σ → Bool) : Prop where
  /-- Nothing takes it back. -/
  stays : ∀ asked state, cancelled state = true → cancelled (handler asked state).2 = true
  /-- Calls that begin afterwards are late. -/
  late : ∀ asked state, cancelled state = true →
    ClusterCall.isLate asked (handler asked state).1 = true

/-- The state that is left after calls. -/
def stateAfter (handler : Handler Cluster σ) (state : σ) (history : History Cluster) : σ :=
  history.foldl (fun state event => (handler event.1 state).2) state

/-- All calls of a program that begins after the run was called off are late. -/
theorem HeedsCaller.late_trace (heeds : HeedsCaller handler cancelled)
    (program : Program Cluster α) {state : σ} (calledOff : cancelled state = true) :
    Late (program.trace handler state) := by
  induction program generalizing state with
  | done value => exact List.forall_mem_nil _
  | call asked next ih =>
    exact List.forall_mem_cons.2
      ⟨heeds.late asked state calledOff, ih _ (heeds.stays asked state calledOff)⟩

/-- All calls that a program makes after the run was called off are late. -/
theorem HeedsCaller.late_drop (heeds : HeedsCaller handler cancelled)
    (program : Program Cluster α) {state : σ} {moment : Nat}
    (calledOff :
      cancelled (stateAfter handler state ((program.trace handler state).take moment)) = true) :
    Late ((program.trace handler state).drop moment) := by
  induction program generalizing state moment with
  | done value =>
    rw [trace, List.drop_nil]
    exact List.forall_mem_nil _
  | call asked next ih =>
    cases moment with
    | zero => exact heeds.late_trace (.call asked next) calledOff
    | succ moment => exact ih _ calledOff

end

/-- What is handed over from some moment on is handed over altogether. -/
theorem submissions_drop_sublist (history : History Cluster) (moment : Nat) :
    (submissions (history.drop moment)).Sublist (submissions history) :=
  (List.drop_sublist moment history).filterMap _

/-- Where nothing is handed over at all, nothing is from some moment on. -/
theorem submissions_drop_eq_nil {history : History Cluster} (none : submissions history = [])
    (moment : Nat) : submissions (history.drop moment) = [] :=
  List.sublist_nil.1 (none ▸ submissions_drop_sublist history moment)

namespace Turn

/-- Where the first failure ends a phase, every turn that another one follows has gone well. -/
theorem pairwise_of_upToFailure {turns : List Turn} {pods : List Pod}
    (order : turns.map (·.pod) = upToFailure pods (turns.map fails)) :
    turns.Pairwise fun turn _ => turn.fails = false := by
  induction turns generalizing pods with
  | nil => exact .nil
  | cons turn rest ih =>
    cases pods with
    | nil => cases order
    | cons pod others =>
      cases failed : turn.fails with
      | true =>
        simp only [List.map_cons, failed, upToFailure, List.cons.injEq, List.map_eq_nil_iff]
          at order
        rw [order.2]
        exact List.pairwise_singleton _ _
      | false =>
        simp only [List.map_cons, failed, upToFailure, List.cons.injEq] at order
        exact List.pairwise_cons.2 ⟨fun _ _ => failed, ih order.2⟩

/-- A turn that goes well is over when the caller calls the run off. -/
theorem drop_history_eq_nil {ns : String} {turn : Turn} (passed : turn.fails = false)
    {moment : Nat} (late : Late ((turn.history .caller ns).drop moment)) :
    (turn.history .caller ns).drop moment = [] := by
  obtain ⟨pod, outcome⟩ := turn
  cases outcome with
  | error error => cases passed
  | ok watch =>
    -- The wait went well, so it did not begin after that moment.
    have early : ⟨ClusterCall.awaitPod .caller ns pod.displayName, watch⟩ ∉
        (history .caller ns ⟨pod, .ok watch⟩).drop moment :=
      fun member => Bool.false_ne_true (passed.symm.trans (late _ member))
    rcases moment with _ | _ | moment
    · simp [history] at early
    · simp [history] at early
    · simp [history]

/-- Of turns of which only the last one may fail, at most one hands its pod over after the caller
has called the run off. -/
theorem length_submissions_drop {ns : String} {turns : List Turn}
    (order : turns.Pairwise fun turn _ => turn.fails = false) {moment : Nat}
    (late : Late ((turns.flatMap (history .caller ns)).drop moment)) :
    (submissions ((turns.flatMap (history .caller ns)).drop moment)).length ≤ 1 := by
  induction turns generalizing moment with
  | nil => simp [submissions]
  | cons turn rest ih =>
    obtain ⟨passed, others⟩ := List.pairwise_cons.1 order
    rw [List.flatMap_cons, List.drop_append] at late ⊢
    obtain ⟨now, later⟩ := List.forall_mem_append.1 late
    rw [submissions_append, List.length_append]
    cases failed : turn.fails with
    | true =>
      have last : rest = [] := by
        refine List.eq_nil_iff_forall_not_mem.2 fun next member => ?_
        rw [passed next member] at failed
        cases failed
      have own : submissions (turn.history .caller ns) = [turn.pod] := by
        simpa using submissions_turns .caller ns [turn]
      have fewer := (submissions_drop_sublist (turn.history .caller ns) moment).length_le
      rw [own] at fewer
      simpa [last, submissions] using fewer
    | false =>
      rw [drop_history_eq_nil failed now]
      simpa [submissions] using ih others later

end Turn

namespace PhaseRun.Course

variable {plan : Plan} {shared : List EnvVar} {failedBefore : Bool} {phase : Phase}
  {history : History Cluster} {outcome : Outcome} {moment : Nat}

/-- A phase that ends at its first failure hands over at most one pod after the caller has called
the run off. -/
theorem length_submissions_drop
    (course : Course plan .caller shared failedBefore phase history outcome)
    (stops : phase.stopsAtFailure = true) (late : Late (history.drop moment)) :
    (submissions (history.drop moment)).length ≤ 1 := by
  cases course with
  | unbuilt => simp [submissions_drop_eq_nil (submissions_lookupHistory _ _ _)]
  | @ran answers pods turns closing fits built order =>
    have quiet : submissions (closingHistory plan .caller closing) = [] := by cases closing <;> rfl
    rw [if_pos stops] at order
    rw [List.append_assoc, List.drop_append, List.drop_append] at late ⊢
    obtain ⟨_, afterwards⟩ := List.forall_mem_append.1 late
    obtain ⟨later, _⟩ := List.forall_mem_append.1 afterwards
    rw [submissions_append, submissions_append,
      submissions_drop_eq_nil (submissions_lookupHistory _ _ _), submissions_drop_eq_nil quiet,
      List.nil_append, List.append_nil]
    exact Turn.length_submissions_drop (Turn.pairwise_of_upToFailure order) later

/-- A phase in which nothing goes wrong is over when the caller calls the run off. -/
theorem drop_eq_nil (course : Course plan .caller shared failedBefore phase history outcome)
    (well : outcome.errors = []) (late : Late (history.drop moment)) :
    history.drop moment = [] := by
  cases course with
  | unbuilt fits lacking wrong => exact absurd well wrong
  | ran turns closing fits built order =>
    obtain ⟨_, none⟩ := List.append_eq_nil_iff.1 well
    obtain rfl := (closingErrors_eq_nil_iff plan closing).1 none
    -- The last thing that such a phase does is to find out that it is not called off.
    rw [closingHistory, List.drop_append] at late ⊢
    obtain ⟨_, last⟩ := List.forall_mem_append.1 late
    generalize _ ++ turns.flatMap _ = work at last ⊢
    rcases Nat.lt_or_ge work.length moment with ended | early
    · rw [List.drop_eq_nil_of_le (Nat.le_of_lt ended), List.nil_append]
      exact List.drop_eq_nil_of_le (Nat.sub_pos_of_lt ended)
    · rw [Nat.sub_eq_zero_of_le early] at last
      exact absurd (last _ List.mem_cons_self) Bool.false_ne_true

end PhaseRun.Course

/-- Whatever the cluster answers, at most one pod is handed over before the cleanup of a run after
the moment at which the caller has called the run off. -/
theorem Plan.length_submissions_untilCleanup {plan : Plan} {progress : Progress}
    {history : History Cluster} {reached : Except RunError Interim}
    (ends : (plan.untilCleanup progress).Ends history reached) {moment : Nat}
    (late : Late (history.drop moment)) : (submissions (history.drop moment)).length ≤ 1 := by
  rcases ends_untilCleanup ends with ⟨error, failed⟩ |
    ⟨shared, early, pre, test, first, rfl, prepared, course, second⟩
  · simp [submissions_drop_eq_nil (submissions_provision failed)]
  · rw [List.drop_append, List.drop_append] at late ⊢
    obtain ⟨_, phases⟩ := List.forall_mem_append.1 late
    obtain ⟨ofPre, ofTest⟩ := List.forall_mem_append.1 phases
    rw [submissions_append, submissions_append,
      submissions_drop_eq_nil (submissions_provision prepared), List.nil_append]
    rcases second with rfl | ⟨well, _, tried⟩
    · simpa [submissions] using course.length_submissions_drop rfl ofPre
    · -- A test that begins at all follows a preparation that was not called off.
      rw [course.drop_eq_nil well ofPre]
      simpa [submissions] using tried.length_submissions_drop rfl ofTest

/-- Over HTTP, a wait that is called off when it begins ends at once and without any request. -/
theorem Client.ends_awaitPod_calledOff {token : Token} {ns name : String}
    {later : History Transport} {watch : Watch}
    (ends : (Client.awaitPod token ns name).Ends (⟨TransportCall.isCancelled token, true⟩ :: later)
      watch) : later = [] ∧ watch = Client.calledOff none := by
  obtain ⟨looks, enough⟩ : ∃ looks, Client.patience = looks + 1 := ⟨999999999, rfl⟩
  rw [Client.awaitPod, enough, Client.watch, bind_eq, Program.ends_bind_iff] at ends
  obtain ⟨early, late, cancelled, whole, asked, rest⟩ := ends
  obtain rfl := ends_ask_iff.1 asked
  obtain ⟨same, rfl⟩ := List.cons.inj whole
  obtain rfl : true = cancelled := eq_of_heq (Sigma.mk.inj same).2
  exact ends_done_iff.1 rest

/-- A run is cut in two where its cleanup begins. In a cluster in which every wait fails that begins
after the caller has called the run off, and whatever else it answers, at most one pod is handed
over between that moment and the cleanup. Waits over HTTP fail then. -/
theorem Plan.submissions_late {σ : Type} (plan : Plan) (progress : Progress)
    {handler : Handler Cluster σ} {cancelled : σ → Bool} (heeds : HeedsCaller handler cancelled)
    (state : σ) (moment : Nat)
    (calledOff : cancelled
      (stateAfter handler state (((plan.run progress).trace handler state).take moment)) = true) :
    let before := (plan.untilCleanup progress).trace handler state
    let reached := (plan.untilCleanup progress).run handler state
    (plan.run progress).trace handler state =
        before ++ (plan.conclude progress reached.1).trace handler reached.2 ∧
      (submissions (before.drop moment)).length ≤ 1 ∧
      ∀ {ns name : String} {later : History Transport} {watch : Watch},
        (Client.awaitPod .caller ns name).Ends (⟨TransportCall.isCancelled .caller, true⟩ :: later)
          watch → ClusterCall.isLate (.awaitPod .caller ns name) watch = true := by
  intro before reached
  have whole : (plan.run progress).trace handler state =
      before ++ (plan.conclude progress reached.1).trace handler reached.2 := by
    rw [run_eq_bind, trace_bind]
  have late := heeds.late_drop (plan.run progress) calledOff
  rw [whole, List.drop_append] at late
  have begun := Program.ends_run handler (plan.untilCleanup progress) state
  refine ⟨whole, length_submissions_untilCleanup begun (List.forall_mem_append.1 late).1, ?_⟩
  intro ns name later watch ends
  obtain ⟨_, rfl⟩ := Client.ends_awaitPod_calledOff ends
  rfl

/-- A step that looks whether all is well. -/
def Step.check : Step := { (default : Step) with name := "check" }

/-- The small test with two more steps that prepare. -/
def Plan.checked : Plan :=
  { small with config := { small.config with pre := [.prepare, .check, .check] } }

/-- What is answered when all goes well, unless it is too late. -/
def ClusterCall.answerUnless (late : Bool) : (asked : ClusterCall) → asked.Answer
  | .create .. | .deleteSecret .. | .deletePods .. | .submitPod _ => .ok ()
  | .readSecret .. => .ok {}
  | .pullSpec .. => .ok ""
  | .awaitPod .caller .. => if late then Client.calledOff none else { seen := [], result := .ok {} }
  | .awaitPod .detached .. => { seen := [], result := .ok {} }
  | .isCancelled .caller => late
  | .isCancelled .detached => false

/-- A cluster in which all goes well until the caller calls the run off, after so many calls. -/
def Cluster.calledOffAfter (moment : Nat) : Handler Cluster Nat := fun asked calls =>
  (ClusterCall.answerUnless (decide (moment ≤ calls)) asked, calls + 1)

/-- That cluster heeds the caller. -/
theorem Cluster.heedsCaller_calledOffAfter (moment : Nat) :
    HeedsCaller (calledOffAfter moment) fun calls => decide (moment ≤ calls) := by
  constructor
  · intro asked calls late
    exact decide_eq_true (Nat.le_succ_of_le (of_decide_eq_true late))
  · intro asked calls late
    change ClusterCall.isLate asked
      (ClusterCall.answerUnless (decide (moment ≤ calls)) asked) = true
    rw [late]
    cases asked with
    | awaitPod token | isCancelled token => cases token <;> rfl
    | _ => rfl

/-- When the test is called off as its first pod has come to a good end, one pod more is handed over
before the cleanup. -/
theorem Plan.submissions_late_checked :
    let history := (Plan.run .checked .initial).trace (Cluster.calledOffAfter 9) 0
    let before := (Plan.untilCleanup .checked .initial).trace (Cluster.calledOffAfter 9) 0
    (submissions (history.drop 9)).map (·.displayName) = ["e2e-check", "e2e-cleanup"] ∧
      (submissions (before.drop 9)).map (·.displayName) = ["e2e-check"] ∧
      (submissions (before.drop 9)).length ≤ 1 := by
  intro history before
  obtain ⟨_, few, _⟩ := submissions_late .checked .initial
    (Cluster.heedsCaller_calledOffAfter 9) 0 9 rfl
  exact ⟨rfl, rfl, few⟩

end StagedTest
