import StagedTest.Proofs.Cleanup
import StagedTest.Proofs.Conduct

/-!
# What a run changes

A run leaves its traces in few places: its shared secret, the copies of secrets, its access, and
the pods of its steps. `Plan.Changes` lists them, with what may happen there. The main statement
says of each call of every run that it changes an in-memory store only in these ways, whatever was
stored before and whatever fails, so that what was there before a run stays as it was apart from
the shared secret and pods.
-/
namespace StagedTest

open Program

namespace Plan

/-- The places in which a run may put something. -/
inductive Writes (plan : Plan) : ObjectKey → Prop
  /-- The shared secret. -/
  | shared : Writes plan plan.sharedKey
  /-- The copy of a secret that steps ask for. -/
  | copy {credential : Credential} (asked : credential ∈ Provision.credentials plan.config) :
      Writes plan ⟨.secret, plan.ns, credential.mirrorName⟩
  /-- The identity. -/
  | identity : Writes plan ⟨.serviceAccount, plan.ns, plan.test⟩
  /-- The role. -/
  | role : Writes plan ⟨.role, plan.ns, plan.test⟩
  /-- The grant. -/
  | grant : Writes plan ⟨.roleBinding, plan.ns, plan.test⟩
  /-- The pod of a step. -/
  | pod {step : Step} (ofTest : step ∈ plan.config.steps) :
      Writes plan ⟨.pod, plan.ns, Naming.pod plan.test step.name⟩

/-- What a call of a run may do to the object at a place, which is told by what was there before
and what is there after. -/
inductive Changes (plan : Plan) (calledOff : Prop) :
    ObjectKey → Option Object → Option Object → Prop
  /-- The shared secret comes and goes. -/
  | shared (before after : Option Object) : Changes plan calledOff plan.sharedKey before after
  /-- The copy of a secret that steps ask for comes where there was none. -/
  | copy {credential : Credential} (asked : credential ∈ Provision.credentials plan.config)
      (object : Object) :
      Changes plan calledOff ⟨.secret, plan.ns, credential.mirrorName⟩ none (some object)
  /-- The identity comes where there was none. -/
  | identity (object : Object) :
      Changes plan calledOff ⟨.serviceAccount, plan.ns, plan.test⟩ none (some object)
  /-- The role comes where there was none. -/
  | role (object : Object) :
      Changes plan calledOff ⟨.role, plan.ns, plan.test⟩ none (some object)
  /-- The grant comes where there was none. -/
  | grant (object : Object) :
      Changes plan calledOff ⟨.roleBinding, plan.ns, plan.test⟩ none (some object)
  /-- The pod of a step comes, goes or is replaced. -/
  | pod {step : Step} (ofTest : step ∈ plan.config.steps) (before after : Option Object) :
      Changes plan calledOff ⟨.pod, plan.ns, Naming.pod plan.test step.name⟩ before after
  /-- A pod with the label of the test goes, because a phase was called off. -/
  | cleanedUp {object : Object} (name : String) (off : calledOff)
      (labelled : object.metadata.carries (Access.labels plan.test) = true) :
      Changes plan calledOff ⟨.pod, plan.ns, name⟩ (some object) none

/-- What is there stays as it is, apart from the shared secret and pods. -/
theorem Changes.keeps {plan : Plan} {calledOff : Prop} {key : ObjectKey} {object : Object}
    {after : Option Object} (changes : plan.Changes calledOff key (some object) after)
    (noPod : key.kind ≠ .pod) : key = plan.sharedKey := by
  cases changes with
  | shared => rfl
  | pod => exact absurd rfl noPod
  | cleanedUp => exact absurd rfl noPod

/-- What happens if something is so may also happen if it follows from that. -/
theorem Changes.mono {plan : Plan} {calledOff other : Prop} {key : ObjectKey}
    {before after : Option Object} (changes : plan.Changes calledOff key before after)
    (wider : calledOff → other) : plan.Changes other key before after := by
  cases changes with
  | shared => exact .shared _ _
  | copy asked => exact .copy asked _
  | identity => exact .identity _
  | role => exact .role _
  | grant => exact .grant _
  | pod ofTest => exact .pod ofTest _ _
  | cleanedUp name off labelled => exact .cleanedUp name (wider off) labelled

/-! ## What a single call changes -/

section Calls

variable {plan : Plan} {given : String → String → Secret → Prop} {before after : Store}

/-- Creating something changes one place, in which there was nothing. -/
theorem changes_of_create {ns : String} {object : Object} {answer : Except ClientError Unit}
    {calledOff : Prop} (served : Store.Serves (.create ns object) answer before after)
    (may : plan.Changes calledOff (Store.keyOf ns object) none (some object)) (key : ObjectKey) :
    after.get? key = before.get? key ∨
      plan.Changes calledOff key (before.get? key) (after.get? key) := by
  cases answer with
  | error error => exact .inl (congrArg (·.get? key) served)
  | ok created =>
    obtain ⟨absent, rfl⟩ := served
    rw [Store.get?_put]
    split
    · rename_i same
      rw [same, absent]
      exact .inr may
    · exact .inl rfl

/-- A call that a run may make changes a store only as runs do, and pods are deleted only if a phase
was called off. -/
theorem Makes.changes {calledOff : Prop} {asked : ClusterCall} {answer : asked.Answer}
    (makes : plan.Makes given asked) (served : Store.Serves asked answer before after)
    (off : ∀ ns labels, asked = .deletePods ns labels → calledOff) (key : ObjectKey) :
    after.get? key = before.get? key ∨
      plan.Changes calledOff key (before.get? key) (after.get? key) := by
  by_cases here : asked.place? = some key
  · cases makes with
    | profile | source => exact .inl (congrArg (·.get? key) served)
    | discard | renew =>
      obtain rfl := Option.some.inj here
      exact .inr (.shared _ _)
    | copy asked stored => exact changes_of_create served (.copy asked _) key
    | identity => exact changes_of_create served (.identity _) key
    | role => exact changes_of_create served (.role _) key
    | grant => exact changes_of_create served (.grant _) key
    | submit ofPlan ofTest =>
      subst ofPlan
      obtain rfl := Option.some.inj here
      exact .inr (.pod ofTest _ _)
    | watch token ofTest =>
      obtain rfl := Option.some.inj here
      exact .inr (.pod ofTest _ _)
    | image | look | cleanUp => cases here
  · by_cases marked : ∃ object, before.get? key = some object ∧
        ∃ ns labels, asked = .deletePods ns labels ∧ Store.isPodWith ns labels key object = true
    · obtain ⟨object, there, ns, labels, rfl, marked⟩ := marked
      obtain ⟨rfl, rfl⟩ : ns = plan.ns ∧ labels = Access.labels plan.test := by
        cases makes with
        | cleanUp => exact ⟨rfl, rfl⟩
      cases answer with
      | error error => exact .inl (congrArg (·.get? key) served)
      | ok deleted =>
        have gone : after.get? key = none := by rw [served, there]; simp [marked]
        obtain ⟨kind, ns, name⟩ := key
        simp only [Store.isPodWith, Bool.and_eq_true, beq_iff_eq] at marked
        obtain ⟨⟨rfl, rfl⟩, labelled⟩ := marked
        rw [there, gone]
        exact .inr (.cleanedUp name (off _ _ rfl) labelled)
    · refine .inl (served.elsewhere here ?_)
      rintro ns labels rfl object there
      cases found : Store.isPodWith ns labels key object with
      | false => rfl
      | true => exact absurd ⟨object, there, ns, labels, rfl, found⟩ marked

end Calls

end Plan

/-! ## Deletions are announced -/

/-- Before pods are deleted, some phase has been told that it is called off. -/
def Announced (history : History Cluster) : Prop :=
  ∀ early ns labels deleted late,
    history = early ++ ⟨ClusterCall.deletePods ns labels, deleted⟩ :: late →
      ∃ token, ⟨ClusterCall.isCancelled token, true⟩ ∈ early

/-- Without deletions there is nothing to announce. -/
theorem announced_of_deletions {history : History Cluster} (none : deletions history = []) :
    Announced history := by
  rintro early ns labels deleted late rfl
  have listed : deleted ∈ deletions
      (early ++ ⟨ClusterCall.deletePods ns labels, deleted⟩ :: late) :=
    mem_deletions (List.mem_append_right _ List.mem_cons_self)
  rw [none] at listed
  cases listed

/-- In one history after the other deletions are announced if they are in both. -/
theorem Announced.append {first second : History Cluster} (head : Announced first)
    (tail : Announced second) : Announced (first ++ second) := by
  intro early ns labels deleted late whole
  by_cases inFirst : ∃ rest, first = early ++ ⟨ClusterCall.deletePods ns labels, deleted⟩ :: rest
  · obtain ⟨rest, same⟩ := inFirst
    exact head early ns labels deleted rest same
  · rcases List.append_eq_append_iff.1 whole with ⟨middle, rfl, same⟩ | ⟨middle, same, rest⟩
    · obtain ⟨token, told⟩ := tail middle ns labels deleted late same
      exact ⟨token, List.mem_append_right _ told⟩
    · cases middle with
      | nil =>
        obtain ⟨token, told⟩ := tail [] ns labels deleted late rest.symm
        cases told
      | cons event others =>
        obtain ⟨rfl, _⟩ := List.cons.inj rest
        exact absurd ⟨others, same⟩ inFirst

/-- A phase announces the deletion at its end. -/
theorem CleansUp.announced {plan : Plan} {shared : List EnvVar} {token : Token} {phase : Phase}
    {failedBefore : Prop} [Decidable failedBefore] {history : History Cluster}
    (cleans : CleansUp plan shared token phase failedBefore history) : Announced history := by
  rw [CleansUp] at cleans
  split at cleans
  · obtain ⟨work, quiet, rfl | ⟨answer, rfl⟩⟩ := cleans
    · exact (announced_of_deletions quiet).append (announced_of_deletions rfl)
    · refine (announced_of_deletions quiet).append fun early ns labels deleted late same => ?_
      rcases early with _ | ⟨first, others⟩
      · cases (List.cons.inj same).1
      · obtain ⟨rfl, _⟩ := List.cons.inj same
        exact ⟨token, List.mem_cons_self⟩
  · exact announced_of_deletions cleans

namespace Plan

variable {plan : Plan} {progress : Progress} {ended : Progress × Except RunError Unit}

/-- In every run deletions of pods are announced. -/
theorem announced_run {history : History Cluster} (ends : (plan.run progress).Ends history ended) :
    Announced history := by
  obtain ⟨last, result⟩ := ended
  rcases ends_run ends with ⟨error, failed, _⟩ |
    ⟨shared, early, pre, test, post, rfl, provided, stages⟩
  · exact announced_of_deletions (deletions_provision failed)
  · obtain ⟨first, second, third⟩ := stages.cleansUp
    have tested : Announced test := by
      rcases second with ⟨_, cleans⟩ | ⟨_, rfl⟩
      · exact cleans.announced
      · exact announced_of_deletions rfl
    exact (announced_of_deletions (deletions_provision provided)).append
      ((first.announced.append tested).append third.announced)

/-- Every call of a run is one that the run may make. -/
theorem makes_run {history : History Cluster} (ends : (plan.run progress).Ends history ended) :
    ∀ event ∈ history, plan.Makes (fun _ _ _ => True) event.1 := by
  refine (plan.conforms_run _ progress).allowed ends ?_
  rintro ⟨asked, answer⟩ _
  cases asked with
  | readSecret => cases answer <;> exact trivial
  | _ => exact trivial

/-! ## What a whole run changes -/

/-- How a store has changed by some moment of a run: some objects were changed in their places, and
elsewhere only pods with the label of the test have gone, and only if a phase was called off. -/
structure LeavesRest (plan : Plan) (calledOff : Prop) (start now : Store) : Prop where
  /-- What was there before the run is there as it was, apart from the shared secret and pods. -/
  stored : ∀ key object, key.kind ≠ .pod → key ≠ plan.sharedKey →
    start.get? key = some object → now.get? key = some object
  /-- Where a run puts nothing, only pods with the label of the test have gone. -/
  elsewhere : ∀ key, ¬plan.Writes key → now.get? key = start.get? key ∨
    calledOff ∧ key.kind = .pod ∧ key.ns = plan.ns ∧ now.get? key = none ∧
      ∃ object, start.get? key = some object ∧
        object.metadata.carries (Access.labels plan.test) = true

/-- Without changes all the rest is left. -/
theorem LeavesRest.refl (plan : Plan) (calledOff : Prop) (store : Store) :
    plan.LeavesRest calledOff store store :=
  ⟨fun _ _ _ _ there => there, fun _ _ => .inl rfl⟩

/-- Changes that runs make leave all the rest. -/
theorem LeavesRest.step {calledOff : Prop} {start before after : Store}
    (leaves : plan.LeavesRest calledOff start before)
    (changes : ∀ key, after.get? key = before.get? key ∨
      plan.Changes calledOff key (before.get? key) (after.get? key)) :
    plan.LeavesRest calledOff start after := by
  constructor
  · intro key object noPod other there
    have before := leaves.stored key object noPod other there
    rcases changes key with same | changed
    · exact same.trans before
    · rw [before] at changed
      exact absurd (changed.keeps noPod) other
  · intro key unwritten
    rcases changes key with same | changed
    · rw [same]
      exact leaves.elsewhere key unwritten
    · generalize was : before.get? key = old at changed
      generalize is : after.get? key = new at changed
      cases changed with
      | shared => exact absurd .shared unwritten
      | copy asked => exact absurd (.copy asked) unwritten
      | identity => exact absurd .identity unwritten
      | role => exact absurd .role unwritten
      | grant => exact absurd .grant unwritten
      | pod ofTest => exact absurd (.pod ofTest) unwritten
      | @cleanedUp object name off labelled =>
        rcases leaves.elsewhere _ unwritten with kept | ⟨_, _, _, gone, _⟩
        · exact .inr ⟨off, rfl, rfl, rfl, object, kept.symm.trans was, labelled⟩
        · rw [gone] at was
          cases was

/-- Each call of a run changes an in-memory store only as runs do: the shared secret comes and
goes, copies and access come where they are missing, the pods of steps come, go and are replaced,
and pods with the label of the test go if a phase was called off. So at every moment of a run all
the rest of the store is as it was before the run. -/
theorem changes_run {history rest : History Cluster} {start now : Store}
    (ends : (plan.run progress).Ends (history ++ rest) ended)
    (follows : Follows Store.Serves start history now) :
    (∀ early event late before after, history = early ++ event :: late →
      Store.Serves event.1 event.2 before after → ∀ key, after.get? key = before.get? key ∨
        plan.Changes (∃ token, ⟨ClusterCall.isCancelled token, true⟩ ∈ early) key
          (before.get? key) (after.get? key)) ∧
      plan.LeavesRest (∃ token, ⟨ClusterCall.isCancelled token, true⟩ ∈ history) start now := by
  have single : ∀ early event late before after, history = early ++ event :: late →
      Store.Serves event.1 event.2 before after → ∀ key, after.get? key = before.get? key ∨
        plan.Changes (∃ token, ⟨ClusterCall.isCancelled token, true⟩ ∈ early) key
          (before.get? key) (after.get? key) := by
    rintro early ⟨asked, answer⟩ late before after rfl served key
    refine (makes_run ends ⟨asked, answer⟩ ?_).changes served ?_ key
    · exact List.mem_append_left _ (List.mem_append_right _ List.mem_cons_self)
    · rintro ns labels rfl
      exact announced_run ends early ns labels answer (late ++ rest) (by simp)
  refine ⟨single, ?_⟩
  apply follows.invariant
  · exact .refl plan _ start
  · intro event member before after served leaves
    obtain ⟨early, late, whole⟩ := List.append_of_mem member
    refine leaves.step fun key => (single early event late before after whole served key).imp_right
      fun changes => changes.mono fun ⟨token, told⟩ => ⟨token, ?_⟩
    rw [whole]
    exact List.mem_append_left _ told

/-- Where the caller has called the small test off and a pod with its label is left over under
another name, the run deletes that pod and leaves the secret that it copies. -/
theorem changes_run_leftOver :
    let leftOver : Pod := { metadata := { labels := some (Access.labels "e2e") } }
    let start : Rehearsal :=
      { Rehearsal.small [] with
        store := (Rehearsal.small []).store.put ⟨.pod, "ci", "other"⟩ (.pod leftOver)
        callerCancelled := true }
    let final := ((Plan.run .small .initial).run Rehearsal.handler start).2.store
    final.get? ⟨.secret, "vault", "token"⟩ = some (.secret {}) ∧
      final.get? ⟨.pod, "ci", "other"⟩ = none := by
  intro leftOver start final
  have distinct : start.store.Distinct := (Store.distinct_empty.put _ _).put _ _
  have ends := Program.ends_run Rehearsal.handler (Plan.run .small .initial) start
  rw [← List.append_nil ((Plan.run .small .initial).trace Rehearsal.handler start)] at ends
  have rest := (changes_run ends
    (Rehearsal.follows_serves (Plan.run .small .initial) start distinct)).2
  exact ⟨rest.stored _ _ (by decide) (by decide) rfl, rfl⟩

end Plan

end StagedTest
