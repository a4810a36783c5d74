import StagedTest.Proofs.MemorySteps
import StagedTest.Proofs.References

/-!
# Cleaning up after a phase that was called off

A phase that was called off deletes the pods of its test, once, after its last pod, and by the
label of the test alone. The first part says so of every history of a run. The second part follows
the pods of an in-memory store: a pod that a run hands over carries the label and stands in the
namespace that the deletion looks at, so that a preparation or a test that was called off leaves
nothing of this run behind, and the pods of the cleanup, which come later, stay.
-/
namespace StagedTest

open Program PhaseRun

/-- The answers to deletions of pods, in order. -/
def deletions (history : History Cluster) : List (Except ClientError Unit) :=
  history.filterMap fun
    | ⟨.deletePods _ _, answer⟩ => some answer
    | _ => none

/-- The names of the pods that were handed over and accepted, in order. -/
def accepted (history : History Cluster) : List String :=
  history.filterMap fun
    | ⟨.submitPod pod, .ok ()⟩ => some pod.displayName
    | _ => none

/-- How a phase ends. If all its steps can be built, the last thing that it does is to ask whether
it is called off, and to delete the pods of the test exactly if it is. Otherwise it deletes
nothing. -/
def CleansUp (plan : Plan) (shared : List EnvVar) (token : Token) (phase : Phase)
    (failedBefore : Prop) [Decidable failedBefore] (history : History Cluster) : Prop :=
  if (Batch.podsOf? plan shared (includedSteps plan.config phase failedBefore)
      (lookups history)).isSome then
    ∃ work, deletions work = [] ∧
      (history = work ++ [⟨ClusterCall.isCancelled token, false⟩] ∨
        ∃ deleted, history = work ++ [⟨ClusterCall.isCancelled token, true⟩,
          ⟨ClusterCall.deletePods plan.ns (.ofList [(Label.test, plan.test)]), deleted⟩])
  else deletions history = []

/-! ## Deletions in parts of a history -/

/-- The deletions in two histories follow each other. -/
theorem deletions_append (early late : History Cluster) :
    deletions (early ++ late) = deletions early ++ deletions late :=
  List.filterMap_append

/-- The pods that are accepted in two histories follow each other. -/
theorem accepted_append (early late : History Cluster) :
    accepted (early ++ late) = accepted early ++ accepted late :=
  List.filterMap_append

/-- Lookups delete nothing. -/
theorem deletions_lookupHistory (ns : String) (images : List ImageTag)
    (answers : List (Except ClientError String)) :
    deletions (Batch.lookupHistory ns images answers) = [] := by
  rw [deletions, Batch.lookupHistory, List.filterMap_map, List.filterMap_eq_nil_iff]
  intro lookup _
  rfl

/-- Turns delete nothing. -/
theorem Turn.deletions_turns (token : Token) (ns : String) (turns : List Turn) :
    deletions (turns.flatMap (Turn.history token ns)) = [] := by
  induction turns with
  | nil => rfl
  | cons turn rest ih =>
    obtain ⟨pod, outcome⟩ := turn
    rw [List.flatMap_cons, deletions_append, ih]
    cases outcome <;> rfl

/-- Preparing a run deletes no pods. -/
theorem deletions_provision {plan : Plan} {history : History Cluster}
    {result : Except RunError (List EnvVar)}
    (ends : (Provision.all plan).run.Ends history result) : deletions history = [] := by
  rw [deletions, List.filterMap_eq_nil_iff]
  rintro ⟨asked, answer⟩ member
  have may := (Provision.prepares_all plan ends).1 _ member
  cases asked with
  | deletePods => cases may
  | _ => rfl

/-- The end of a phase has the deletion that it was decided to have. -/
theorem deletions_closingHistory (plan : Plan) (token : Token)
    (closing : Option (Except ClientError Unit)) :
    deletions (closingHistory plan token closing) = closing.toList := by
  cases closing <;> rfl

/-- A phase that takes one of its courses cleans up as it should. -/
theorem cleansUp_course {plan : Plan} {token : Token} {shared : List EnvVar}
    {failedBefore : Bool} {failed : Prop} [Decidable failed] {phase : Phase}
    {history : History Cluster} {outcome : Outcome} (same : failedBefore = true ↔ failed)
    (course : Course plan token shared failedBefore phase history outcome) :
    CleansUp plan shared token phase failed history := by
  have steps := stepsToRun_eq plan phase same
  cases course with
  | unbuilt fits lacking wrong =>
    rw [steps] at fits lacking ⊢
    rw [CleansUp, Batch.lookups_lookupHistory plan.ns fits, lacking]
    exact deletions_lookupHistory _ _ _
  | @ran answers pods turns closing fits built order =>
    rw [steps] at fits built ⊢
    have known := lookups_wholeHistory plan token turns closing fits
    rw [wholeHistory] at known
    rw [CleansUp, known, built, Option.isSome_some, if_pos rfl]
    refine ⟨Batch.lookupHistory plan.ns
        ((includedSteps plan.config phase failed).flatMap Batch.images) answers ++
      turns.flatMap (Turn.history token plan.ns), ?_, ?_⟩
    · rw [deletions_append, deletions_lookupHistory, Turn.deletions_turns, List.append_nil]
    · cases closing with
      | none => exact .inl rfl
      | some deleted => exact .inr ⟨deleted, rfl⟩

/-! ## Pods of a test -/

/-- A pod stands in the namespace of a test and carries its label. -/
structure Pod.OfTest (plan : Plan) (pod : Pod) : Prop where
  /-- The namespace. -/
  ns : pod.metadata.ns = some plan.ns
  /-- The label. -/
  labelled : pod.metadata.carries (Access.labels plan.test) = true

/-- A workload is a pod of its test. -/
theorem Workload.ofTest (workload : Workload) : workload.pod.OfTest workload.plan := by
  refine ⟨rfl, ?_⟩
  have listed : (Access.labels workload.plan.test).entries =
      [(Label.test, workload.plan.test)] := rfl
  have found : (StringMap.ofList [(Label.createdBy, "true"),
      (Label.test, workload.plan.test)]).get? Label.test = some workload.plan.test := by
    simp [StringMap.ofList]
  simp [ObjectMetadata.carries, listed, pod, metadata, found]

/-- What a phase hands over are pods of the test. -/
theorem PhaseRun.Course.ofTest {plan : Plan} {token : Token} {shared : List EnvVar}
    {failedBefore : Bool} {phase : Phase} {history : History Cluster} {outcome : Outcome}
    (course : Course plan token shared failedBefore phase history outcome) :
    ∀ pod ∈ submissions history, pod.OfTest plan := by
  intro pod member
  obtain ⟨workload, rfl, _, rfl⟩ := (conducted_course Iff.rfl course).workload member
  exact workload.ofTest

/-- The place of a pod of a test. -/
theorem Pod.OfTest.place {plan : Plan} {pod : Pod} (ofTest : pod.OfTest plan) :
    pod.place = ⟨.pod, plan.ns, pod.displayName⟩ := by
  rw [Pod.place, ofTest.ns]
  rfl

/-- A pod of a test stays one, however it is seen later. -/
theorem Pod.OfTest.continues {plan : Plan} {earlier later : Pod} (ofTest : earlier.OfTest plan)
    (continues : earlier.Continues later) : later.OfTest plan :=
  ⟨continues.metadata ▸ ofTest.ns, continues.metadata ▸ ofTest.labelled⟩

/-! ## Pods in an in-memory store -/

section Store

variable {plan : Plan} {token : Token} {before after : Store}

/-- In its turn a pod is refused and leaves its place as it was or empty, or it stands in its place
at the end. -/
theorem Turn.follows_history {turn : Turn} (ofTest : turn.pod.OfTest plan)
    (follows : Follows Store.Serves before (turn.history token plan.ns) after) :
    (after = before ∨ after = before.erase turn.pod.place) ∨
      turn.pod.displayName ∈ accepted (turn.history token plan.ns) ∧
        ∃ seen, turn.pod.Continues seen ∧ after = before.put turn.pod.place (.pod seen) := by
  obtain ⟨pod, outcome⟩ := turn
  cases outcome with
  | error error =>
    obtain ⟨_, served, rest⟩ := follows_cons_iff.1 follows
    obtain rfl := follows_nil_iff.1 rest
    exact .inl served
  | ok watch =>
    obtain ⟨between, submitted, rest⟩ := follows_cons_iff.1 follows
    obtain ⟨_, watched, rest⟩ := follows_cons_iff.1 rest
    obtain rfl := follows_nil_iff.1 rest
    obtain rfl : between = before.put pod.place (.pod pod) := submitted
    refine .inr ⟨List.mem_singleton_self _, ?_⟩
    rcases watched with rfl | ⟨object, seen, found, continues, rfl⟩
    · exact ⟨pod, .refl pod, rfl⟩
    · rw [← ofTest.place, Store.get?_put, if_pos rfl] at found
      obtain rfl := Option.some.inj found
      exact ⟨seen, continues, by rw [← ofTest.place, Store.put_put]⟩

/-- Every pod of a namespace is as it should be, by its name. -/
def Store.PodsAre (ns : String) (fits : String → Object → Prop) (store : Store) : Prop :=
  ∀ name object, store.get? ⟨.pod, ns, name⟩ = some object → fits name object

variable {fits : String → Object → Prop}

/-- Turns leave every pod as it should be if the pods that are accepted are. -/
theorem Turn.podsAre_turns {turns : List Turn} (ofTest : ∀ turn ∈ turns, turn.pod.OfTest plan)
    (fitting : ∀ turn ∈ turns,
      turn.pod.displayName ∈ accepted (turns.flatMap (Turn.history token plan.ns)) →
        ∀ seen, turn.pod.Continues seen → fits turn.pod.displayName (.pod seen))
    (follows : Follows Store.Serves before (turns.flatMap (Turn.history token plan.ns)) after)
    (start : before.PodsAre plan.ns fits) : after.PodsAre plan.ns fits := by
  induction turns generalizing before with
  | nil =>
    obtain rfl := follows_nil_iff.1 follows
    exact start
  | cons turn rest ih =>
    obtain ⟨ofThis, ofRest⟩ := List.forall_mem_cons.1 ofTest
    simp only [List.flatMap_cons, accepted_append, List.mem_append] at fitting
    obtain ⟨between, led, leading⟩ := follows_append_iff.1 follows
    refine ih ofRest (fun other member listed => fitting other (List.mem_cons_of_mem _ member)
      (.inr listed)) leading fun name object found => ?_
    rcases turn.follows_history ofThis led with (rfl | rfl) | ⟨listed, seen, continues, rfl⟩
    · exact start name object found
    · rw [Store.get?_erase] at found
      split at found
      · cases found
      · exact start name object found
    · rw [ofThis.place, Store.get?_put] at found
      split at found
      · rename_i same
        obtain ⟨rfl, rfl⟩ := And.intro (ObjectKey.mk.inj same).2.2 (Option.some.inj found)
        exact fitting turn List.mem_cons_self (.inl listed) seen continues
      · exact start name object found

/-- Lookups change nothing. -/
theorem Batch.follows_lookupHistory {ns : String} {images : List ImageTag}
    {answers : List (Except ClientError String)}
    (follows : Follows Store.Serves before (lookupHistory ns images answers) after) :
    after = before := by
  apply follows.invariant
  · rfl
  · intro event member early late step kept
    obtain ⟨lookup, _, rfl⟩ := List.mem_map.1 member
    exact Eq.trans step kept

/-- The end of a phase takes away the pods that carry the label of the test if the deletion goes
well, and otherwise changes nothing. -/
theorem PhaseRun.follows_closingHistory {closing : Option (Except ClientError Unit)}
    (follows : Follows Store.Serves before (closingHistory plan token closing) after)
    (start : before.PodsAre plan.ns fits) :
    after.PodsAre plan.ns fits ∧
      (.ok () ∈ closing.toList → after.PodsAre plan.ns fun name object =>
        fits name object ∧ object.metadata.carries (Access.labels plan.test) = false) := by
  cases closing with
  | none =>
    obtain ⟨_, told, rest⟩ := follows_cons_iff.1 follows
    obtain rfl := follows_nil_iff.1 rest
    obtain rfl : after = before := told
    exact ⟨start, by simp⟩
  | some deleted =>
    obtain ⟨middle, told, rest⟩ := follows_cons_iff.1 follows
    obtain rfl : middle = before := told
    obtain ⟨_, served, rest⟩ := follows_cons_iff.1 rest
    obtain rfl := follows_nil_iff.1 rest
    cases deleted with
    | error error =>
      obtain rfl : after = middle := served
      exact ⟨start, by simp⟩
    | ok done =>
      have left : after.PodsAre plan.ns fun name object =>
          fits name object ∧ object.metadata.carries (Access.labels plan.test) = false := by
        intro name object found
        rw [served, Option.filter_eq_some_iff] at found
        exact ⟨start name object found.1, by simpa [Store.isPodWith] using found.2⟩
      exact ⟨fun name object found => (left name object found).1, fun _ => left⟩

/-- A phase leaves every pod as it should be if the pods that it has accepted are, and a deletion
that goes well leaves only those that do not carry the label of the test. -/
theorem PhaseRun.Course.podsAre {shared : List EnvVar} {failedBefore : Bool} {phase : Phase}
    {history : History Cluster} {outcome : Outcome}
    (course : Course plan token shared failedBefore phase history outcome)
    (follows : Follows Store.Serves before history after) (fits : String → Object → Prop)
    (fitting : ∀ pod : Pod, pod.OfTest plan → pod.displayName ∈ accepted history →
      ∀ seen, pod.Continues seen → fits pod.displayName (.pod seen))
    (start : before.PodsAre plan.ns fits) :
    after.PodsAre plan.ns fits ∧
      (.ok () ∈ deletions history → after.PodsAre plan.ns fun name object =>
        fits name object ∧ object.metadata.carries (Access.labels plan.test) = false) := by
  have submitted := course.ofTest
  cases course with
  | unbuilt =>
    obtain rfl := Batch.follows_lookupHistory follows
    exact ⟨start, by simp [deletions_lookupHistory]⟩
  | @ran answers pods turns closing =>
    obtain ⟨between, led, closed⟩ := follows_append_iff.1 follows
    obtain ⟨built, looked, turned⟩ := follows_append_iff.1 led
    obtain rfl := Batch.follows_lookupHistory looked
    have ofTest : ∀ turn ∈ turns, turn.pod.OfTest plan := fun turn member =>
      submitted turn.pod (mem_submissions_wholeHistory plan token closing member)
    have ran : between.PodsAre plan.ns fits := by
      refine Turn.podsAre_turns ofTest (fun turn member listed => ?_) turned start
      refine fitting turn.pod (ofTest turn member) ?_
      rw [accepted_append, accepted_append]
      exact List.mem_append_left _ (List.mem_append_right _ listed)
    have deleted : deletions (Batch.lookupHistory plan.ns
        ((stepsToRun plan failedBefore phase).flatMap Batch.images) answers ++
          turns.flatMap (Turn.history token plan.ns) ++ closingHistory plan token closing) =
        closing.toList := by
      rw [deletions_append, deletions_append, deletions_lookupHistory, Turn.deletions_turns,
        deletions_closingHistory, List.nil_append, List.nil_append]
    rw [deleted]
    exact PhaseRun.follows_closingHistory closed ran

/-- Provisioning looks at the place of no pod. -/
theorem ClusterCall.kind_of_isProvisioning {asked : ClusterCall} {key : ObjectKey}
    (may : asked.isProvisioning = true) (here : asked.place? = some key) : key.kind ≠ .pod := by
  cases asked with
  | create ns object =>
    obtain rfl := Option.some.inj here
    have noPod : object.kind ≠ .pod := by simpa [ClusterCall.isProvisioning] using may
    exact noPod
  | readSecret | deleteSecret =>
    obtain rfl := Option.some.inj here
    intro ofPod
    cases ofPod
  | deletePods | submitPod | awaitPod | pullSpec | isCancelled => cases may

/-- Preparing a run leaves the pods alone. -/
theorem Provision.keeps_pods {history : History Cluster} {result : Except RunError (List EnvVar)}
    (ends : (Provision.all plan).run.Ends history result)
    (follows : Follows Store.Serves before history after) {key : ObjectKey}
    (ofPod : key.kind = .pod) : after.get? key = before.get? key := by
  apply follows.invariant
  · rfl
  · rintro ⟨asked, answer⟩ member early late step kept
    have may := (Provision.prepares_all plan ends).1 _ member
    rw [← kept]
    refine step.elsewhere (fun here => ClusterCall.kind_of_isProvisioning may here ofPod) ?_
    rintro ns labels rfl
    cases may

/-- A pod that stands in its place stays there, however it is seen later, when no other one of its
name is handed over and no pods are deleted. -/
theorem Store.Serves.keeps_pod {asked : ClusterCall} {answer : asked.Answer} {key : ObjectKey}
    {pod seen : Pod} (served : Store.Serves asked answer before after)
    (quiet : ∀ ns labels, asked ≠ .deletePods ns labels)
    (other : ∀ later, asked = .submitPod later → later.place ≠ key) (ofPod : key.kind = .pod)
    (continues : pod.Continues seen) (there : before.get? key = some (.pod seen)) :
    ∃ seen, pod.Continues seen ∧ after.get? key = some (.pod seen) := by
  have same : after = before → ∃ seen, pod.Continues seen ∧ after.get? key = some (.pod seen) := by
    rintro rfl
    exact ⟨seen, continues, there⟩
  by_cases here : asked.place? = some key
  · cases asked with
    | create ns object =>
      obtain rfl := Option.some.inj here
      cases answer with
      | error error => exact same served
      | ok created =>
        -- What is created was not there before, so it is not in the place of the pod.
        rw [served.1] at there
        cases there
    | readSecret | deleteSecret =>
      obtain rfl := Option.some.inj here
      cases ofPod
    | submitPod later => exact absurd (Option.some.inj here) (other later rfl)
    | awaitPod token ns name =>
      obtain rfl := Option.some.inj here
      rcases served with kept | ⟨object, last, found, continued, rfl⟩
      · exact same kept
      · rw [there] at found
        obtain rfl := Option.some.inj found
        exact ⟨last, continues.trans continued, by rw [Store.get?_put, if_pos rfl]⟩
    | deletePods | pullSpec | isCancelled => cases here
  · have kept := served.elsewhere here fun ns labels deletes => absurd deletes (quiet ns labels)
    exact ⟨seen, continues, kept.trans there⟩

/-- A deletion of pods by the label of a test takes away nothing else. -/
theorem Store.Serves.spares {answer : Except ClientError Unit} {key : ObjectKey} {object : Object}
    (served : Store.Serves (.deletePods plan.ns (Access.labels plan.test)) answer before after)
    (other : key.kind = .pod → key.ns = plan.ns →
      object.metadata.carries (Access.labels plan.test) = false)
    (there : before.get? key = some object) : after.get? key = some object := by
  refine (served.elsewhere nofun ?_).trans there
  rintro ns labels deletes found stored
  obtain ⟨rfl, rfl⟩ := ClusterCall.deletePods.inj deletes
  obtain rfl := Option.some.inj (there.symm.trans stored)
  cases marked : Store.isPodWith plan.ns (Access.labels plan.test) key object with
  | false => rfl
  | true =>
    simp only [Store.isPodWith, Bool.and_eq_true, beq_iff_eq] at marked
    rw [other marked.1.1 marked.1.2] at marked
    cases marked.2

end Store

/-! ## What a run leaves -/

/-- Where pods are deleted, something is wrong with the phase, and the phase was called off. -/
theorem PhaseRun.Course.deletions_eq_nil {plan : Plan} {token : Token} {shared : List EnvVar}
    {failedBefore : Bool} {phase : Phase} {history : History Cluster} {outcome : Outcome}
    (course : Course plan token shared failedBefore phase history outcome)
    (well : outcome.errors = [] ∨ calledOff history = false) : deletions history = [] := by
  cases course with
  | unbuilt => exact deletions_lookupHistory _ _ _
  | @ran answers pods turns closing fits built order =>
    have goesOn : closing = none := by
      rcases well with well | told
      · exact (closingErrors_eq_nil_iff plan closing).1 (List.append_eq_nil_iff.1 well).2
      · have whole : calledOff (wholeHistory plan token
            ((stepsToRun plan failedBefore phase).flatMap Batch.images) answers turns closing) =
            closing.isSome := calledOff_wholeHistory plan token turns closing
        rw [wholeHistory, told] at whole
        exact Option.not_isSome_iff_eq_none.1 (by simp [← whole])
    rw [deletions_append, deletions_append, deletions_lookupHistory, Turn.deletions_turns,
      deletions_closingHistory, goesOn]
    rfl

/-- The answer to a deletion of pods is listed. -/
theorem mem_deletions {history : History Cluster} {ns : String} {labels : StringMap String}
    {deleted : Except ClientError Unit}
    (member : ⟨ClusterCall.deletePods ns labels, deleted⟩ ∈ history) :
    deleted ∈ deletions history :=
  List.mem_filterMap.2 ⟨_, member, rfl⟩

/-- A pod that is handed over is listed. -/
theorem mem_submissions {history : History Cluster} {pod : Pod}
    {answer : Except ClientError Unit}
    (member : ⟨ClusterCall.submitPod pod, answer⟩ ∈ history) : pod ∈ submissions history :=
  List.mem_filterMap.2 ⟨_, member, rfl⟩

/-- The only pods that the end of a phase deletes are those that carry the label of the test. -/
theorem CleansUp.deletes {plan : Plan} {shared : List EnvVar} {token : Token} {phase : Phase}
    {failedBefore : Prop} [Decidable failedBefore] {history : History Cluster} {ns : String}
    {labels : StringMap String} {deleted : Except ClientError Unit}
    (cleans : CleansUp plan shared token phase failedBefore history)
    (member : ⟨ClusterCall.deletePods ns labels, deleted⟩ ∈ history) :
    ns = plan.ns ∧ labels = Access.labels plan.test := by
  have never : ∀ {part : History Cluster}, deletions part = [] →
      ⟨ClusterCall.deletePods ns labels, deleted⟩ ∉ part := by
    intro part none here
    exact absurd (none ▸ mem_deletions here) List.not_mem_nil
  rw [CleansUp] at cleans
  split at cleans
  · obtain ⟨work, quiet, rfl | ⟨answer, rfl⟩⟩ := cleans
    · rcases List.mem_append.1 member with member | member
      · exact absurd member (never quiet)
      · cases List.mem_singleton.1 member
    · rcases List.mem_append.1 member with member | member
      · exact absurd member (never quiet)
      · rcases List.mem_cons.1 member with same | member
        · cases same
        · cases List.mem_singleton.1 member
          exact ⟨rfl, rfl⟩
  · exact absurd member (never cleans)

namespace Plan

/-- What the phases of a run leave of pods in an in-memory store. -/
structure LeavesClean (plan : Plan) (start final : Store) (pre test post : History Cluster) :
    Prop where
  /-- What is handed over stands in the namespace of the test and carries its label. -/
  ofTest : ∀ pod ∈ submissions (pre ++ test ++ post), pod.OfTest plan
  /-- If the preparation or the test was called off and its pods were deleted, then in the end a
  pod in the namespace was accepted in the cleanup, or it was there before the run, without the
  label. -/
  gone : .ok () ∈ deletions (pre ++ test) →
    ∀ name object, final.get? ⟨.pod, plan.ns, name⟩ = some object → name ∈ accepted post ∨
      start.get? ⟨.pod, plan.ns, name⟩ = some object ∧
        object.metadata.carries (Access.labels plan.test) = false
  /-- The last pod of a name that the cleanup has accepted is there in the end, unless the cleanup
  itself was called off. -/
  kept : ∀ before pod after, post = before ++ ⟨ClusterCall.submitPod pod, .ok ()⟩ :: after →
    (∀ later ∈ submissions after, later.displayName ≠ pod.displayName) →
    calledOff post = false →
      ∃ seen, pod.Continues seen ∧
        final.get? ⟨.pod, plan.ns, pod.displayName⟩ = some (.pod seen)
  /-- A deletion of pods spares what is no pod, stands in another namespace or does not carry the
  label. -/
  spared : ∀ ns labels deleted,
    ⟨ClusterCall.deletePods ns labels, deleted⟩ ∈ pre ++ test ++ post →
    ∀ before after, Store.Serves (.deletePods ns labels) deleted before after →
      ∀ key object, before.get? key = some object →
        (key.kind = .pod → key.ns = plan.ns →
          object.metadata.carries (Access.labels plan.test) = false) →
        after.get? key = some object

section Stages

variable {plan : Plan} {shared : List EnvVar} {progress last : Progress}
  {pre test post : History Cluster} {result : Except RunError Unit} {before after : Store}

/-- The cleanup of a run takes one of its courses. -/
theorem Stages.cleanup (stages : plan.Stages shared progress pre test post last result) :
    ∃ failedBefore outcome,
      PhaseRun.Course plan .detached shared failedBefore .post post outcome := by
  cases stages with
  | stopped _ _ cleaned => exact ⟨_, _, cleaned⟩
  | tested _ _ _ cleaned => exact ⟨_, _, cleaned⟩

/-- The phases of a run clean up as they should: the preparation, the test if the preparation has
succeeded, and the cleanup. -/
theorem Stages.cleansUp (stages : plan.Stages shared progress pre test post last result) :
    CleansUp plan shared .caller .pre False pre ∧
      (last.phase .pre = .succeeded ∧ CleansUp plan shared .caller .test False test ∨
        last.phase .pre = .failed ∧ test = []) ∧
      CleansUp plan shared .detached .post
        (last.phase .pre = .failed ∨ last.phase .test = .failed) post := by
  have nothingBefore : false = true ↔ False := by simp
  cases stages with
  | @stopped _ first final prepared failed cleaned =>
    have ofPre : ((progress.ended .pre first).ended .post final).phase .pre = .failed := by
      simp [failed]
    exact ⟨cleansUp_course nothingBefore prepared, .inr ⟨ofPre, rfl⟩,
      cleansUp_course ⟨fun _ => .inl ofPre, fun _ => rfl⟩ cleaned⟩
  | @tested _ _ first second final prepared well tried cleaned =>
    have ofPre : (((progress.ended .pre first).ended .test second).ended .post final).phase .pre =
        .succeeded := by
      simp [well]
    have ofTest : (((progress.ended .pre first).ended .test second).ended .post
        final).phase .test = if second.errors = [] then .succeeded else .failed := by
      simp
    refine ⟨cleansUp_course nothingBefore prepared,
      .inl ⟨ofPre, cleansUp_course nothingBefore tried⟩, cleansUp_course ?_ cleaned⟩
    rw [ofPre, ofTest]
    cases second.errors <;> simp

/-- The pods that a run hands over belong to the test. -/
theorem Stages.ofTest (stages : plan.Stages shared progress pre test post last result) :
    ∀ pod ∈ submissions (pre ++ test ++ post), pod.OfTest plan := by
  simp only [submissions_append, List.forall_mem_append]
  cases stages with
  | stopped prepared _ cleaned =>
    exact ⟨⟨prepared.ofTest, by simp [submissions]⟩, cleaned.ofTest⟩
  | tested prepared _ tried cleaned => exact ⟨⟨prepared.ofTest, tried.ofTest⟩, cleaned.ofTest⟩

/-- If the preparation or the test was called off and its pods were deleted, then before the
cleanup no pod of the namespace carries the label, and all are as they should be. -/
theorem Stages.podsAre_before (stages : plan.Stages shared progress pre test post last result)
    (follows : Follows Store.Serves before (pre ++ test) after) (fits : String → Object → Prop)
    (fitting : ∀ pod : Pod, pod.OfTest plan → ∀ seen, pod.Continues seen →
      fits pod.displayName (.pod seen))
    (start : before.PodsAre plan.ns fits) (deleted : .ok () ∈ deletions (pre ++ test)) :
    after.PodsAre plan.ns fun name object =>
      fits name object ∧ object.metadata.carries (Access.labels plan.test) = false := by
  have always : ∀ {history : History Cluster} (pod : Pod), pod.OfTest plan →
      pod.displayName ∈ accepted history → ∀ seen, pod.Continues seen →
        fits pod.displayName (.pod seen) := fun pod ofTest _ => fitting pod ofTest
  cases stages with
  | stopped prepared _ _ =>
    rw [List.append_nil] at follows deleted
    exact (prepared.podsAre follows fits always start).2 deleted
  | tested prepared well tried _ =>
    -- A preparation that went well was not called off, so the deletion is that of the test.
    rw [deletions_append, prepared.deletions_eq_nil (.inl well), List.nil_append] at deleted
    obtain ⟨between, led, leading⟩ := follows_append_iff.1 follows
    exact (tried.podsAre leading fits always (prepared.podsAre led fits always start).1).2 deleted

/-- The last pod of a name that the cleanup has accepted is there when the cleanup ends, unless
the cleanup itself was called off. -/
theorem Stages.keeps_accepted (stages : plan.Stages shared progress pre test post last result)
    (follows : Follows Store.Serves before post after) {early late : History Cluster} {pod : Pod}
    (whole : post = early ++ ⟨ClusterCall.submitPod pod, .ok ()⟩ :: late)
    (only : ∀ later ∈ submissions late, later.displayName ≠ pod.displayName)
    (goesOn : calledOff post = false) :
    ∃ seen, pod.Continues seen ∧
      after.get? ⟨.pod, plan.ns, pod.displayName⟩ = some (.pod seen) := by
  obtain ⟨failedBefore, outcome, cleaned⟩ := stages.cleanup
  have quiet := cleaned.deletions_eq_nil (.inr goesOn)
  have handed : ⟨ClusterCall.submitPod pod, .ok ()⟩ ∈ post := by
    rw [whole]
    exact List.mem_append_right _ List.mem_cons_self
  have ofTest := cleaned.ofTest pod (mem_submissions handed)
  rw [whole] at follows quiet
  obtain ⟨between, _, rest⟩ := follows_append_iff.1 follows
  obtain ⟨handed, submitted, leading⟩ := follows_cons_iff.1 rest
  obtain rfl : handed = between.put pod.place (.pod pod) := submitted
  rw [← ofTest.place]
  apply leading.invariant
  · exact ⟨pod, .refl pod, by rw [Store.get?_put, if_pos rfl]⟩
  · rintro ⟨asked, answer⟩ member first second served ⟨seen, continues, there⟩
    refine served.keeps_pod ?_ ?_ rfl continues there
    · rintro ns labels rfl
      have listed : answer ∈ deletions (early ++ ⟨ClusterCall.submitPod pod, .ok ()⟩ :: late) :=
        mem_deletions (List.mem_append_right early (List.mem_cons_of_mem _ member))
      rw [quiet] at listed
      cases listed
    · rintro later rfl same
      exact only later (mem_submissions member) (congrArg ObjectKey.name same)

end Stages

/-- In every run each phase whose steps can all be built asks after its last pod whether it is
called off, and exactly then deletes, once, the pods of its namespace that carry the label of the
test and no other ones. In an in-memory store such a deletion leaves nothing of the preparation
and the test, and what the cleanup creates afterwards stays. -/
theorem cleansUp_run {plan : Plan} {progress last : Progress} {history : History Cluster}
    {result : Except RunError Unit} (ends : (plan.run progress).Ends history (last, result)) :
    (∃ error, (Provision.all plan).run.Ends history (.error error)) ∧ deletions history = [] ∨
      ∃ shared early pre test post, history = early ++ (pre ++ test ++ post) ∧
        (Provision.all plan).run.Ends early (.ok shared) ∧ deletions early = [] ∧
        CleansUp plan shared .caller .pre False pre ∧
        (last.phase .pre = .succeeded ∧ CleansUp plan shared .caller .test False test ∨
          last.phase .pre = .failed ∧ test = []) ∧
        CleansUp plan shared .detached .post
          (last.phase .pre = .failed ∨ last.phase .test = .failed) post ∧
        ∀ start final, Follows Store.Serves start history final →
          plan.LeavesClean start final pre test post := by
  rcases ends_run ends with ⟨error, failed, _⟩ |
    ⟨shared, early, pre, test, post, rfl, provided, stages⟩
  · exact .inl ⟨⟨error, failed⟩, deletions_provision failed⟩
  obtain ⟨first, second, third⟩ := stages.cleansUp
  refine .inr ⟨shared, early, pre, test, post, rfl, provided, deletions_provision provided, first,
    second, third, fun start final follows => ?_⟩
  obtain ⟨provisioned, led, phases⟩ := follows_append_iff.1 follows
  obtain ⟨tested, ran, cleaning⟩ := follows_append_iff.1 phases
  refine ⟨stages.ofTest, ?_, ?_, ?_⟩
  · intro deleted
    -- Up to the deletion a pod carries the label or was there from the start, and after it nothing
    -- carries the label but what the cleanup creates.
    have before := stages.podsAre_before ran (fun name object =>
        object.metadata.carries (Access.labels plan.test) = true ∨
          start.get? ⟨.pod, plan.ns, name⟩ = some object)
      (fun pod ofTest seen continues => .inl (ofTest.continues continues).labelled)
      (fun name object found => .inr (by rw [← Provision.keeps_pods provided led rfl, found]))
      deleted
    obtain ⟨failedBefore, outcome, cleaned⟩ := stages.cleanup
    refine (cleaned.podsAre cleaning (fun name object => name ∈ accepted post ∨
        start.get? ⟨.pod, plan.ns, name⟩ = some object ∧
          object.metadata.carries (Access.labels plan.test) = false)
      (fun pod _ listed _ _ => .inl listed) fun name object found => ?_).1
    obtain ⟨labelled | there, unlabelled⟩ := before name object found
    · rw [unlabelled] at labelled
      cases labelled
    · exact .inr ⟨there, unlabelled⟩
  · exact fun before pod after whole only goesOn =>
      stages.keeps_accepted cleaning whole only goesOn
  · intro ns labels deleted member before after served key object there other
    obtain ⟨rfl, rfl⟩ : ns = plan.ns ∧ labels = Access.labels plan.test := by
      rcases List.mem_append.1 member with member | member
      · rcases List.mem_append.1 member with member | member
        · exact first.deletes member
        · rcases second with ⟨_, cleans⟩ | ⟨_, rfl⟩
          · exact cleans.deletes member
          · cases member
      · exact third.deletes member
    exact served.spares other there

/-- When the small test is called off from the start, its pods are deleted once, and all that the
cleanup has to leave clean is clean. -/
theorem cleansUp_run_calledOff :
    let start : Rehearsal := { Rehearsal.small [] with callerCancelled := true }
    deletions ((Plan.run .small .initial).trace Rehearsal.handler start) = [.ok ()] ∧
      ∃ pre test post, deletions (pre ++ test ++ post) = [.ok ()] ∧
        Plan.small.LeavesClean start.store
          ((Plan.run .small .initial).run Rehearsal.handler start).2.store pre test post := by
  intro start
  have deleted : deletions ((Plan.run .small .initial).trace Rehearsal.handler start) =
      [.ok ()] := rfl
  have distinct : start.store.Distinct := Store.distinct_empty.put _ _
  rcases cleansUp_run (Program.ends_run Rehearsal.handler (Plan.run .small .initial) start) with
    ⟨_, none⟩ | ⟨_, early, pre, test, post, whole, _, none, _, _, _, leaves⟩
  · rw [deleted] at none
    cases none
  · refine ⟨deleted, pre, test, post, ?_, leaves _ _ (Rehearsal.follows_serves _ start distinct)⟩
    rw [whole, deletions_append, none, List.nil_append] at deleted
    exact deleted

end Plan

end StagedTest
