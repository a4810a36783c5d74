import StagedTest.Proofs.CalmCalls
import StagedTest.Proofs.Footprint

/-!
# Pods that are left over

Where an earlier run has left pods, a run makes other calls than where it has not: a pod in the way
is deleted before the step's own one is created. That is all the difference there is. A run looks at
the place of a pod only after it has put its own pod there (`Informed`), so two stores between which
only pods differ answer it alike, and at the end they hold the same in every place that the run has
put a pod in.
-/
namespace StagedTest

open Program PhaseRun

/-! ## Histories that look at nothing doubtful -/

/-- Whether a call puts a pod in a place, whatever stands there. -/
def ClusterCall.Replaces : ClusterCall → ObjectKey → Prop
  | .submitPod pod, key => pod.place = key
  | _, _ => False

/-- In a history no call looks at a doubtful place before a pod has been put there. -/
def Informed (doubtful : ObjectKey → Prop) : History Cluster → Prop
  | [] => True
  | ⟨asked, _⟩ :: later =>
    (∀ key, asked.place? = some key → doubtful key → asked.Replaces key) ∧
      Informed (fun key => doubtful key ∧ ¬asked.Replaces key) later

/-- The places that are doubtful after a history: those in which it has put no pod. -/
def doubtfulAfter (doubtful : ObjectKey → Prop) : History Cluster → ObjectKey → Prop
  | [] => doubtful
  | ⟨asked, _⟩ :: later => doubtfulAfter (fun key => doubtful key ∧ ¬asked.Replaces key) later

section Histories

variable {doubtful wider : ObjectKey → Prop} {history first second : History Cluster}

/-- With fewer doubts a history looks at nothing doubtful either. -/
theorem Informed.mono (informed : Informed wider history)
    (less : ∀ key, doubtful key → wider key) : Informed doubtful history := by
  induction history generalizing doubtful wider with
  | nil => trivial
  | cons event later ih =>
    obtain ⟨now, rest⟩ := informed
    exact ⟨fun key here doubt => now key here (less key doubt),
      ih rest fun key doubt => ⟨less key doubt.1, doubt.2⟩⟩

/-- Of two histories that look at nothing doubtful, one after the other does not either. -/
theorem Informed.append (head : Informed doubtful first) (tail : Informed doubtful second) :
    Informed doubtful (first ++ second) := by
  induction first generalizing doubtful with
  | nil => exact tail
  | cons event later ih =>
    obtain ⟨now, rest⟩ := head
    exact ⟨now, ih rest (tail.mono fun key doubt => doubt.1)⟩

/-- A history that looks at no doubtful place at all. -/
theorem informed_of_apart
    (apart : ∀ event ∈ history, ∀ key, ClusterCall.place? event.1 = some key → ¬doubtful key) :
    Informed doubtful history := by
  induction history generalizing doubtful with
  | nil => trivial
  | cons event later ih =>
    obtain ⟨now, rest⟩ := List.forall_mem_cons.1 apart
    exact ⟨fun key here doubt => absurd doubt (now key here),
      ih fun other member key here doubt => rest other member key here doubt.1⟩

/-- A place is doubtful after a history if it has been doubtful before and no pod was put there. -/
theorem doubtfulAfter_iff {key : ObjectKey} : doubtfulAfter doubtful history key ↔
    doubtful key ∧ ∀ pod ∈ submissions history, pod.place ≠ key := by
  induction history generalizing doubtful with
  | nil => simp [doubtfulAfter, submissions]
  | cons event later ih =>
    obtain ⟨asked, answer⟩ := event
    rw [doubtfulAfter, ih, and_assoc]
    refine and_congr_right fun _ => ?_
    cases asked with
    | submitPod pod =>
      have handed : submissions (⟨ClusterCall.submitPod pod, answer⟩ :: later) =
          pod :: submissions later := rfl
      rw [handed, List.forall_mem_cons]
      exact Iff.rfl
    | create | readSecret | deleteSecret | deletePods | awaitPod | pullSpec | isCancelled =>
      exact and_iff_right not_false

end Histories

/-! ## Handlers between which there are doubts -/

/-- Two handlers between which some places are doubtful: a call that looks at nothing doubtful is
answered in the same way, and makes no place doubtful. -/
def Settles {σ τ : Type} (relates : (ObjectKey → Prop) → σ → τ → Prop) (first : Handler Cluster σ)
    (second : Handler Cluster τ) : Prop :=
  ∀ doubtful asked state state', relates doubtful state state' →
    (∀ key, ClusterCall.place? asked = some key → doubtful key →
      ClusterCall.Replaces asked key) →
    (first asked state).1 = (second asked state').1 ∧
      relates (fun key => doubtful key ∧ ¬ClusterCall.Replaces asked key) (first asked state).2
        (second asked state').2

/-- A program that looks at nothing doubtful is answered in the same way, and the only places that
are doubtful at its end are those in which it has put no pod. -/
theorem Settles.run {α σ τ : Type} {relates : (ObjectKey → Prop) → σ → τ → Prop}
    {first : Handler Cluster σ} {second : Handler Cluster τ} {doubtful : ObjectKey → Prop}
    {state : σ} {state' : τ} (settles : Settles relates first second)
    (program : Program Cluster α) (related : relates doubtful state state')
    (informed : Informed doubtful (program.trace first state)) :
    program.trace first state = program.trace second state' ∧
      (program.run first state).1 = (program.run second state').1 ∧
      relates (doubtfulAfter doubtful (program.trace first state)) (program.run first state).2
        (program.run second state').2 := by
  induction program generalizing state state' doubtful with
  | done value => exact ⟨rfl, rfl, related⟩
  | call asked next ih =>
    obtain ⟨now, later⟩ := informed
    obtain ⟨answer, after⟩ := settles doubtful asked state state' related now
    obtain ⟨asks, ends, leaves⟩ := ih _ after later
    simp only [Program.trace, Program.run]
    rw [← answer, ← asks, ← ends]
    exact ⟨rfl, rfl, leaves⟩

/-! ## The histories of runs -/

section Runs

variable {plan : Plan} {token : Token} {doubtful : ObjectKey → Prop}

/-- A pod is watched after it has been put in its place. -/
theorem Turn.informed {turn : Turn} (ofTest : turn.pod.OfTest plan) :
    Informed doubtful (turn.history token plan.ns) := by
  have handed : ∀ key, ClusterCall.place? (.submitPod turn.pod) = some key → doubtful key →
      ClusterCall.Replaces (.submitPod turn.pod) key := fun key here _ => Option.some.inj here
  obtain ⟨pod, outcome⟩ := turn
  cases outcome with
  | error error => exact ⟨handed, trivial⟩
  | ok watch =>
    refine ⟨handed, fun key here doubt => ?_, trivial⟩
    have there : pod.place = key := ofTest.place.trans (Option.some.inj here)
    exact absurd there doubt.2

/-- Pods that have their turns are watched after they have been put in their places. -/
theorem Turn.informed_turns {turns : List Turn} (ofTest : ∀ turn ∈ turns, turn.pod.OfTest plan) :
    Informed doubtful (turns.flatMap (Turn.history token plan.ns)) := by
  induction turns with
  | nil => trivial
  | cons turn rest ih =>
    obtain ⟨now, later⟩ := List.forall_mem_cons.1 ofTest
    exact (Turn.informed now).append (ih later)

/-- A phase looks at the places of its own pods only, and only once they are there. -/
theorem PhaseRun.Course.informed {shared : List EnvVar} {failedBefore : Bool} {phase : Phase}
    {history : History Cluster} {outcome : Outcome}
    (course : Course plan token shared failedBefore phase history outcome) :
    Informed doubtful history := by
  have looking : ∀ images answers,
      Informed doubtful (Batch.lookupHistory plan.ns images answers) := by
    intro images answers
    refine informed_of_apart fun event member key here => ?_
    obtain ⟨lookup, _, rfl⟩ := List.mem_map.1 member
    cases here
  have ofTest := course.ofTest
  cases course with
  | unbuilt => exact looking _ _
  | ran turns closing =>
    have ofTurns : ∀ turn ∈ turns, turn.pod.OfTest plan := fun turn member =>
      ofTest turn.pod (mem_submissions_wholeHistory plan token closing member)
    refine ((looking _ _).append (Turn.informed_turns ofTurns)).append ?_
    cases closing with
    | none => exact ⟨nofun, trivial⟩
    | some deleted => exact ⟨nofun, nofun, trivial⟩

/-- Provisioning looks at no pod. -/
theorem Provision.informed {history : History Cluster} {result : Except RunError (List EnvVar)}
    (ends : (Provision.all plan).run.Ends history result)
    (pods : ∀ key, doubtful key → key.kind = .pod) : Informed doubtful history :=
  informed_of_apart fun event member key here doubt =>
    ClusterCall.kind_of_isProvisioning ((prepares_all plan ends).1 event member) here
      (pods key doubt)

/-- A run looks at a pod only after it has put its own pod there. -/
theorem Plan.informed_run {progress : Progress} {history : History Cluster}
    {ended : Progress × Except RunError Unit} (ends : (plan.run progress).Ends history ended)
    (pods : ∀ key, doubtful key → key.kind = .pod) : Informed doubtful history := by
  obtain ⟨after, result⟩ := ended
  rcases Plan.ends_run ends with ⟨error, failed, _⟩ |
    ⟨shared, early, pre, test, post, rfl, provided, stages⟩
  · exact Provision.informed failed pods
  · refine (Provision.informed provided pods).append ?_
    cases stages with
    | stopped prepared _ cleaned =>
      rw [List.append_nil]
      exact prepared.informed.append cleaned.informed
    | tested prepared _ tried cleaned =>
      exact (prepared.informed.append tried.informed).append cleaned.informed

end Runs

/-! ## Clusters that differ in doubtful places -/

namespace Rehearsal

variable {state first second : Rehearsal} {doubtful : ObjectKey → Prop}

/-- Without scripted failures a pod is created where nothing stands. -/
theorem createPod_calm (calm : state.failures = []) {pod : Pod}
    (free : state.store.get? pod.place = none) :
    let made := create (pod.metadata.ns.getD "") (.pod pod) state
    made.1 = .ok () ∧ made.2.store = state.store.put pod.place (.pod pod) ∧
      made.2.bare = state.bare := by
  obtain ⟨kept, created⟩ := create_calm calm (pod.metadata.ns.getD "") (.pod pod)
  rw [Pod.place] at free
  rw [free] at created
  exact ⟨created.1, created.2, kept⟩

/-- Without scripted failures a pod that is handed over is accepted and stands in its place, whether
something stood there or not. -/
theorem submitPod_calm (calm : state.failures = []) (pod : Pod) :
    let result := submitPod pod state
    result.1 = .ok () ∧ result.2.store = state.store.put pod.place (.pod pod) ∧
      result.2.bare = state.bare := by
  intro result
  cases found : state.store.get? pod.place with
  | none =>
    have made := createPod_calm calm found
    have whole : result = (.ok (), (create (pod.metadata.ns.getD "") (.pod pod) state).2) := by
      simp only [result, submitPod, act_bind, made.1]
      rfl
    rw [whole]
    exact ⟨rfl, made.2⟩
  | some stored =>
    -- What is left over is deleted, and the pod is created where it was.
    have there : state.store.get? ⟨.pod, pod.metadata.ns.getD "", pod.displayName⟩ =
        some stored := found
    obtain ⟨kept, refused⟩ := create_calm calm (pod.metadata.ns.getD "") (.pod pod)
    rw [Pod.place] at found
    rw [found] at refused
    generalize begun : create (pod.metadata.ns.getD "") (.pod pod) state = made at kept refused
    obtain ⟨answer, between⟩ := made
    obtain ⟨rfl, same⟩ : answer = .error (Store.alreadyExists "create" ObjectKind.pod.name
      pod.displayName) ∧ between.store = state.store := refused
    have kept : between.bare = state.bare := kept
    have quiet : between.failures = [] := (congrArg (·.failures) kept).trans calm
    obtain ⟨spared, deleted⟩ :=
      delete_calm quiet ⟨.pod, pod.metadata.ns.getD "", pod.displayName⟩
    generalize second : delete ⟨.pod, pod.metadata.ns.getD "", pod.displayName⟩ between = gone
      at spared deleted
    rw [same, there] at deleted
    obtain ⟨taken, erased⟩ := deleted
    have quiet : gone.2.failures = [] := (congrArg (·.failures) spared).trans quiet
    have free : gone.2.store.get? pod.place = none := by
      rw [erased, Store.get?_erase]
      exact if_pos rfl
    have made := createPod_calm quiet free
    have conflict : (Store.alreadyExists "create" ObjectKind.pod.name pod.displayName).kind =
        .alreadyExists := rfl
    have whole : result = create (pod.metadata.ns.getD "") (.pod pod) gone.2 := by
      simp only [result, submitPod, act_bind, begun, conflict, if_true, second, taken]
      rfl
    rw [whole]
    refine ⟨made.1, ?_, made.2.2.trans (spared.trans kept)⟩
    rw [made.2.1, erased]
    exact Store.put_erase state.store pod.place (.pod pod)

/-- A calm rehearsal stays calm. -/
theorem calm_call (calm : state.Calm) (asked : ClusterCall) : (handler asked state).2.Calm := by
  refine ⟨?_, (serves_handler asked state calm.distinct).2⟩
  by_cases submitted : ∃ pod, asked = .submitPod pod
  · obtain ⟨pod, rfl⟩ := submitted
    exact (congrArg (·.failures) (submitPod_calm calm.failures pod).2.2).trans calm.failures
  · have single : Direct.IsSingle (.ofRun asked) :=
      fun pod same => submitted ⟨pod, DirectCall.ofRun.inj same⟩
    exact (Direct.calm_handler calm single).failures

/-- Two calm rehearsals that follow the same script and store the same outside of doubtful
places. -/
structure SameBut (doubtful : ObjectKey → Prop) (first second : Rehearsal) : Prop extends
    Direct.Agree first second where
  /-- The first one is calm. -/
  calm : first.Calm
  /-- The second one is calm. -/
  calmToo : second.Calm
  /-- Pods were watched equally often. -/
  waits : ∀ name, first.waits.get? name = second.waits.get? name
  /-- What is not doubtful is the same. -/
  objects : ∀ key, ¬doubtful key → first.store.get? key = second.store.get? key

/-- Whether two rehearsals store something different in a place. -/
def DiffersAt (first second : Rehearsal) (key : ObjectKey) : Prop :=
  first.store.get? key ≠ second.store.get? key

/-- Calm rehearsals with the same script are the same but where they store something different. -/
theorem sameBut_differsAt (calm : first.Calm) (calmToo : second.Calm)
    (script : first.bare = second.bare) : SameBut (first.DiffersAt second) first second where
  images := congrArg (·.images) script
  scripts := congrArg (·.scripts) script
  caller := congrArg (·.callerCancelled) script
  detached := congrArg (·.detachedCancelled) script
  calm := calm
  calmToo := calmToo
  waits name := congrArg (·.waits.get? name) script
  objects _ sure := Classical.not_not.1 sure

/-- When a pod is handed over, its place is doubtful no more. -/
theorem SameBut.submitPod (same : SameBut doubtful first second) (pod : Pod) :
    SameBut (fun key => doubtful key ∧ pod.place ≠ key) (submitPod pod first).2
      (submitPod pod second).2 := by
  obtain ⟨_, put, kept⟩ := submitPod_calm same.calm.failures pod
  obtain ⟨_, putToo, keptToo⟩ := submitPod_calm same.calmToo.failures pod
  refine { same.toAgree.congr kept keptToo with
    calm := calm_call same.calm (.submitPod pod)
    calmToo := calm_call same.calmToo (.submitPod pod)
    waits := fun name => ?_
    objects := fun key sure => ?_ }
  · calc
      _ = first.waits.get? name := congrArg (·.waits.get? name) kept
      _ = second.waits.get? name := same.waits name
      _ = _ := (congrArg (·.waits.get? name) keptToo).symm
  · rw [put, putToo, Store.get?_put, Store.get?_put]
    by_cases here : key = pod.place
    · rw [if_pos here, if_pos here]
    · rw [if_neg here, if_neg here]
      exact same.objects key fun doubt => sure ⟨doubt, Ne.symm here⟩

/-- Any other call that looks at nothing doubtful is answered in the same way, and makes no place
doubtful. -/
theorem SameBut.single (same : SameBut doubtful first second) {asked : ClusterCall}
    (single : Direct.IsSingle (.ofRun asked))
    (sure : ∀ key, asked.place? = some key → ¬doubtful key) :
    (handler asked first).1 = (handler asked second).1 ∧
      SameBut doubtful (handler asked first).2 (handler asked second).2 := by
  have agree : Direct.AgreeOn (.ofRun asked) first second :=
    { same.toAgree with
      place := fun key here => same.objects key (sure key here)
      waits := fun name _ => same.waits name }
  obtain ⟨after, objects, waits⟩ := agree.after same.calm same.calmToo single
  exact ⟨agree.answer same.calm same.calmToo single,
    { after with
      calm := calm_call same.calm asked
      calmToo := calm_call same.calmToo asked
      waits := fun name => waits name (same.waits name)
      objects := fun key known => objects key (same.objects key known) }⟩

/-- Calm rehearsals settle what is doubtful between them. -/
theorem settles_handler : Settles SameBut handler handler := by
  intro doubtful asked first second same informed
  by_cases submitted : ∃ pod, asked = ClusterCall.submitPod pod
  · obtain ⟨pod, rfl⟩ := submitted
    have accepted := (submitPod_calm same.calm.failures pod).1
    have acceptedToo := (submitPod_calm same.calmToo.failures pod).1
    exact ⟨accepted.trans acceptedToo.symm, same.submitPod pod⟩
  · have kept : ∀ key, ¬ClusterCall.Replaces asked key := by
      intro key replaces
      cases asked with
      | submitPod pod => exact submitted ⟨pod, rfl⟩
      | _ => exact replaces
    obtain ⟨answer, after⟩ := same.single
      (fun pod made => submitted ⟨pod, DirectCall.ofRun.inj made⟩)
      fun key here doubt => kept key (informed key here doubt)
    exact ⟨answer,
      { after with objects := fun key known =>
          after.objects key fun doubt => known ⟨doubt, kept key⟩ }⟩

end Rehearsal

/-! ## Runs on clusters that differ in pods -/

namespace Plan

/-- The pods that a run hands over stand in the namespace of the test. -/
theorem ofTest_run {plan : Plan} {progress : Progress} {history : History Cluster}
    {ended : Progress × Except RunError Unit} (ends : (plan.run progress).Ends history ended)
    {pod : Pod} (handed : pod ∈ submissions history) : pod.OfTest plan := by
  obtain ⟨⟨asked, answer⟩, member, listed⟩ := List.mem_filterMap.1 handed
  have makes := plan.makes_run ends _ member
  cases makes with
  | submit ofPlan ofTest =>
    obtain rfl := Option.some.inj listed
    subst ofPlan
    exact Workload.ofTest _
  | profile | discard | renew | source | copy | identity | role | grant | image | watch | look
  | cleanUp => cases listed

/-- Two runs without scripted failures, on stores between which only pods differ, go alike. They ask
for the same, hand over the same pods in the same order and get the same answers, so they end with
the same result, the same phases and the same cases. At the end a pod that was handed over is the
same in both stores, or has gone from both, and what was the same before is the same afterwards. The
pods may be left over in the places of the steps or anywhere else, in one store only or in both, and
with any status and labels. -/
theorem leftOvers_ignored (plan : Plan) (progress : Progress) {first second : Rehearsal}
    (calm : first.Calm) (calmToo : second.Calm) (script : first.bare = second.bare)
    (others : ∀ key, key.kind ≠ .pod → first.store.get? key = second.store.get? key) :
    let history := (plan.run progress).trace Rehearsal.handler first
    let one := (plan.run progress).run Rehearsal.handler first
    let other := (plan.run progress).run Rehearsal.handler second
    history = (plan.run progress).trace Rehearsal.handler second ∧ one.1 = other.1 ∧
      (∀ pod ∈ submissions history, one.2.store.get? ⟨.pod, plan.ns, pod.displayName⟩ =
        other.2.store.get? ⟨.pod, plan.ns, pod.displayName⟩) ∧
      ∀ key, first.store.get? key = second.store.get? key →
        one.2.store.get? key = other.2.store.get? key := by
  intro history one other
  have ends : (plan.run progress).Ends history one.1 := Program.ends_run _ _ _
  have informed : Informed (first.DiffersAt second) history :=
    plan.informed_run ends fun key doubt =>
      Classical.not_not.1 fun noPod => doubt (others key noPod)
  obtain ⟨asks, result, after⟩ := Rehearsal.settles_handler.run (plan.run progress)
    (Rehearsal.sameBut_differsAt calm calmToo script) informed
  refine ⟨asks, result, fun pod handed => ?_, fun key known => ?_⟩
  · rw [← (plan.ofTest_run ends handed).place]
    exact after.objects _ fun doubt => (doubtfulAfter_iff.1 doubt).2 pod handed rfl
  · exact after.objects key fun doubt => (doubtfulAfter_iff.1 doubt).1 known

/-- The small test does not mind a pod that has failed in the place of its first step. -/
theorem leftOvers_ignored_small :
    let leftOver : Pod := { status := some { phase := some PodStatus.failed } }
    let stale : Rehearsal :=
      { Rehearsal.small [] with
        store := (Rehearsal.small []).store.put ⟨.pod, "ci", "e2e-prepare"⟩ (.pod leftOver) }
    (Rehearsal.small []).store.get? ⟨.pod, "ci", "e2e-prepare"⟩ ≠
        stale.store.get? ⟨.pod, "ci", "e2e-prepare"⟩ ∧
      ((Plan.run .small .initial).run Rehearsal.handler (.small [])).1 =
        ((Plan.run .small .initial).run Rehearsal.handler stale).1 ∧
      ((Plan.run .small .initial).run Rehearsal.handler (.small [])).2.store.get?
          ⟨.pod, "ci", "e2e-prepare"⟩ =
        ((Plan.run .small .initial).run Rehearsal.handler stale).2.store.get?
          ⟨.pod, "ci", "e2e-prepare"⟩ := by
  intro leftOver stale
  have distinct : (Rehearsal.small []).store.Distinct := Store.distinct_empty.put _ _
  have calm : (Rehearsal.small []).Calm := ⟨rfl, distinct⟩
  have calmToo : stale.Calm := ⟨rfl, distinct.put _ _⟩
  have others : ∀ key : ObjectKey, key.kind ≠ .pod →
      (Rehearsal.small []).store.get? key = stale.store.get? key := by
    intro key noPod
    have elsewhere : key ≠ ⟨.pod, "ci", "e2e-prepare"⟩ := fun same => noPod (same ▸ rfl)
    rw [Store.get?_put, if_neg elsewhere]
  obtain ⟨_, result, places, _⟩ := leftOvers_ignored .small .initial calm calmToo rfl others
  exact ⟨nofun, result, places (Workload.pod ⟨.small, .prepare, [], [], []⟩) (.head _)⟩

end Plan

end StagedTest
