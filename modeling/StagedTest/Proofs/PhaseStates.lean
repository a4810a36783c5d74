import StagedTest.Proofs.Failures
import StagedTest.Proofs.RunHistory

/-!
# What can be seen of a test after a run

The states of the phases outlive a run, and another run of the same test starts from what the last
one left. After every run of every session they agree with the result of that run: either the run
failed in preparation and no phase has begun, or every phase has come to its end, and the result
names exactly the phases that have failed.
-/
namespace StagedTest

open Program

/-- What a run leaves behind. -/
structure Account where
  /-- What the run asked for, with the answers. -/
  history : History Cluster
  /-- What can be seen of the test after the run. -/
  after : Progress
  /-- The result of the run. -/
  result : Except RunError Unit

/-- Runs of a test one after the other, each of them answered in any way, and each of them with
the progress that the one before has left. -/
inductive Plan.Session (plan : Plan) : Progress → List Account → Progress → Prop
  /-- Without runs the progress stays. -/
  | nil (progress : Progress) : Session plan progress [] progress
  /-- A run is followed by others. -/
  | cons {progress last : Progress} {run : Account} {later : List Account}
      (now : (plan.run progress).Ends run.history (run.after, run.result))
      (rest : Session plan run.after later last) : Session plan progress (run :: later) last

namespace Account

/-- What a run leaves behind that is answered by a handler. -/
def of {σ : Type} (plan : Plan) (progress : Progress) (handler : Handler Cluster σ) (state : σ) :
    Account :=
  ⟨(plan.run progress).trace handler state, ((plan.run progress).run handler state).1.1,
    ((plan.run progress).run handler state).1.2⟩

/-- A run that is answered by a handler ends with what it leaves behind. -/
theorem ends_of {σ : Type} (plan : Plan) (progress : Progress) (handler : Handler Cluster σ)
    (state : σ) :
    (plan.run progress).Ends (of plan progress handler state).history
      ((of plan progress handler state).after, (of plan progress handler state).result) :=
  ends_run handler (plan.run progress) state

/-- A run that failed in preparation: no phase has begun, and nothing was asked that has to do
with pods or images. -/
structure Unprovided (run : Account) : Prop where
  /-- The result says what could not be provided. -/
  blamed : ∃ error, run.result = .error error ∧ error.isPreparation = true
  /-- No phase has begun, whatever earlier runs have left. -/
  untouched : ∀ phase, run.after.phase phase = .notStarted
  /-- Only objects other than pods were created, read and deleted. -/
  calls : ∀ event ∈ run.history, ClusterCall.isProvisioning event.1 = true

/-- A run that got past preparation: its phases have come to their ends, and its result agrees
with them. -/
structure Concluded (plan : Plan) (run : Account) : Prop where
  /-- No phase goes on. -/
  ended : ∀ phase, run.after.phase phase ≠ .running
  /-- The cleanup took place. -/
  cleaned : run.after.phase .post = .succeeded ∨ run.after.phase .post = .failed
  /-- The test was left out exactly if the preparation failed. -/
  leftOut : run.after.phase .test = .notStarted ↔ run.after.phase .pre = .failed
  /-- The run succeeded exactly if all phases did. -/
  success : run.result = .ok () ↔ ∀ phase, run.after.phase phase = .succeeded
  /-- The failure of the run lists each failed phase once, in order. -/
  listed : ∀ error, run.result = .error error → ∃ source : Phase → RunError,
    error.leaves = (Phase.all.filter fun phase => run.after.phase phase = .failed).map
      fun phase => .phaseFailed plan.test phase (source phase)

end Account

/-! ## Phases that have ended -/

namespace Progress

/-- The phases have come to their ends: the test has been left out after a failed preparation, or
has ended after a good one, and the cleanup has ended in either case. -/
structure Settled (progress : Progress) : Prop where
  /-- The preparation and the test. -/
  begun : progress.phase .pre = .failed ∧ progress.phase .test = .notStarted ∨
    progress.phase .pre = .succeeded ∧
      (progress.phase .test = .succeeded ∨ progress.phase .test = .failed)
  /-- The cleanup. -/
  cleaned : progress.phase .post = .succeeded ∨ progress.phase .post = .failed

namespace Settled

variable {progress : Progress}

/-- No phase goes on. -/
theorem ne_running (settled : progress.Settled) (phase : Phase) :
    progress.phase phase ≠ .running := by
  cases phase with
  | pre => rcases settled.begun with ⟨ofPre, _⟩ | ⟨ofPre, _⟩ <;> simp [ofPre]
  | test => rcases settled.begun with ⟨_, ofTest⟩ | ⟨_, ofTest | ofTest⟩ <;> simp [ofTest]
  | post => rcases settled.cleaned with ofPost | ofPost <;> simp [ofPost]

/-- The test is left out exactly after a failed preparation. -/
theorem leftOut_iff (settled : progress.Settled) :
    progress.phase .test = .notStarted ↔ progress.phase .pre = .failed := by
  rcases settled.begun with ⟨ofPre, ofTest⟩ | ⟨ofPre, ofTest | ofTest⟩ <;> simp [ofPre, ofTest]

/-- None of the phases has failed exactly if all of them have succeeded. -/
theorem none_failed_iff (settled : progress.Settled) :
    (Phase.all.filter fun phase => progress.phase phase = .failed) = [] ↔
      ∀ phase, progress.phase phase = .succeeded := by
  rw [List.filter_eq_nil_iff]
  constructor
  · intro noneFailed
    have well : ∀ phase, progress.phase phase ≠ .failed := by
      intro phase
      have listed : phase ∈ Phase.all := by cases phase <;> decide
      simpa using noneFailed phase listed
    have prepared := settled.begun.resolve_left fun failed => well .pre failed.1
    intro phase
    cases phase with
    | pre => exact prepared.1
    | test => exact prepared.2.resolve_right (well .test)
    | post => exact settled.cleaned.resolve_right (well .post)
  · intro succeeded phase _
    simp [succeeded phase]

end Settled

end Progress

/-! ## One run -/

namespace Plan

/-- The failures that a run collects are those of the phases that have failed. -/
theorem listed_stages {plan : Plan} {shared : List EnvVar} {progress after : Progress}
    {pre test post : History Cluster} {result : Except RunError Unit}
    (fresh : progress.phase .test = .notStarted)
    (stages : plan.Stages shared progress pre test post after result) :
    ∃ source : Phase → RunError, result = RunError.collect
      ((Phase.all.filter fun phase => after.phase phase = .failed).map
        fun phase => .phaseFailed plan.test phase (source phase)) := by
  have listed : ∀ phase errors, ∃ source, plan.phaseErrors phase (RunError.collect errors) =
      if errors = [] then [] else [.phaseFailed plan.test phase source] := by
    intro phase errors
    rcases plan.phaseErrors_collect phase errors with ⟨empty, none⟩ | ⟨some, source, one⟩
    · exact ⟨.cancelled, by rw [none, if_pos empty]⟩
    · exact ⟨source, by rw [one, if_neg some]⟩
  cases stages with
  | @stopped _ first last prepared failed cleaned =>
    obtain ⟨ofPre, preListed⟩ := listed .pre first.errors
    obtain ⟨ofPost, postListed⟩ := listed .post last.errors
    refine ⟨fun phase => if phase = .pre then ofPre else ofPost, ?_⟩
    rw [preListed, postListed, if_neg failed]
    by_cases clean : last.errors = [] <;> simp [Phase.all, fresh, failed, clean]
  | @tested _ _ first second last prepared well tried cleaned =>
    obtain ⟨ofTest, testListed⟩ := listed .test second.errors
    obtain ⟨ofPost, postListed⟩ := listed .post last.errors
    refine ⟨fun phase => if phase = .test then ofTest else ofPost, ?_⟩
    rw [testListed, postListed]
    by_cases passed : second.errors = [] <;> by_cases clean : last.errors = [] <;>
      simp [Phase.all, well, passed, clean]

/-- The phases of a run come to their ends, and only a failed preparation keeps the test from
beginning. -/
theorem settled_stages {plan : Plan} {shared : List EnvVar} {progress after : Progress}
    {pre test post : History Cluster} {result : Except RunError Unit}
    (fresh : progress.phase .test = .notStarted)
    (stages : plan.Stages shared progress pre test post after result) : after.Settled := by
  have either : ∀ errors : List RunError,
      (if errors = [] then PhaseState.succeeded else .failed) = .succeeded ∨
        (if errors = [] then PhaseState.succeeded else .failed) = .failed := by
    intro errors
    by_cases none : errors = [] <;> simp [none]
  cases stages with
  | @stopped _ first last prepared failed cleaned =>
    exact ⟨.inl ⟨by simp [failed], by simp [fresh]⟩, by simpa using either last.errors⟩
  | @tested _ _ first second last prepared well tried cleaned =>
    exact ⟨.inr ⟨by simp [well], by simpa using either second.errors⟩,
      by simpa using either last.errors⟩

/-- After a run, whatever it began with, either nothing has begun, or everything has ended. -/
theorem settled_run {plan : Plan} {progress after : Progress} {history : History Cluster}
    {result : Except RunError Unit} (ends : (plan.run progress).Ends history (after, result)) :
    Account.Unprovided ⟨history, after, result⟩ ∨
      Account.Concluded plan ⟨history, after, result⟩ := by
  rcases ends_run ends with ⟨error, failed, rfl, rfl⟩ |
    ⟨shared, early, pre, test, post, _, _, stages⟩
  · obtain ⟨calls, blamed⟩ := Provision.prepares_all plan failed
    exact .inl ⟨⟨error, rfl, blamed error rfl⟩, fun phase => rfl, calls⟩
  · have settled := settled_stages rfl stages
    -- The result is made of the failed phases, so it is success exactly if there are none.
    obtain ⟨source, rfl⟩ := listed_stages rfl stages
    refine .inr ⟨settled.ne_running, settled.cleaned, settled.leftOut_iff, ?_, ?_⟩
    · rw [RunError.collect_eq_ok_iff, List.map_eq_nil_iff]
      exact settled.none_failed_iff
    · intro error failed
      refine ⟨source, ?_⟩
      rw [RunError.leaves_of_collect failed, RunError.leavesOfAll_phaseFailed]

/-- After every run of a session, either the run failed in preparation and no phase has begun, or
the phases have come to their ends and the result of the run agrees with them. -/
theorem settled_of_session {plan : Plan} {start last : Progress} {runs : List Account}
    (session : plan.Session start runs last) :
    ∀ run ∈ runs, run.Unprovided ∨ run.Concluded plan := by
  -- Whatever one run leaves, the next one settles anew, so nothing is carried from run to run.
  induction session with
  | nil => simp
  | cons now rest ih =>
    intro run member
    rcases List.mem_cons.1 member with rfl | member
    · exact settled_run now
    · exact ih run member

/-- Where every pod is refused the small test comes to its end, and where its secret is missing
next time, nothing of that end is left. -/
theorem settled_of_session_refused :
    (Account.of .small .initial Rehearsal.handler (.small [.refusing .pod])).Concluded .small ∧
      (Account.of .small
        (Account.of .small .initial Rehearsal.handler (.small [.refusing .pod])).after
        Rehearsal.handler {}).Unprovided := by
  have first := Account.ends_of .small .initial Rehearsal.handler (.small [.refusing .pod])
  have second := Account.ends_of .small
    (Account.of .small .initial Rehearsal.handler (.small [.refusing .pod])).after
    Rehearsal.handler {}
  have settled := settled_of_session (.cons first (.cons second (.nil _)))
  constructor
  · refine (settled _ List.mem_cons_self).resolve_left fun unprovided => ?_
    cases unprovided.untouched .pre
  · refine (settled _ (by simp)).resolve_right fun concluded => ?_
    rcases concluded.cleaned with succeeded | failed
    · cases succeeded
    · cases failed

end Plan

end StagedTest
