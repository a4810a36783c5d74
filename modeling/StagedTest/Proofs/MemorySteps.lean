import StagedTest.Proofs.RehearsalSteps

/-!
# Exact steps of an in-memory store

What calls do to the objects of a store that nobody else changes. A call that fails changes
nothing, except that a pod that is handed over in vain may have cost the one in its place, and a
pod that is watched keeps its metadata. A rehearsal answers in this way whatever failures are
scripted, as long as nothing is stored twice, and it stores nothing twice by itself.
-/
namespace StagedTest

open Program

/-- The place of a pod that is handed over. -/
def Pod.place (pod : Pod) : ObjectKey := Store.keyOf (pod.metadata.ns.getD "") (.pod pod)

/-- A pod and how it is seen later: its metadata stay, and what it runs stays or is hidden. -/
structure Pod.Continues (earlier later : Pod) : Prop where
  /-- The metadata stay. -/
  metadata : later.metadata = earlier.metadata
  /-- What the pod runs stays or is hidden. -/
  spec : later.spec = earlier.spec ∨ later.spec = none

/-- A pod continues itself. -/
theorem Pod.Continues.refl (pod : Pod) : pod.Continues pod := ⟨rfl, .inl rfl⟩

/-- What continues a later pod continues the earlier one. -/
theorem Pod.Continues.trans {first second third : Pod} (early : first.Continues second)
    (late : second.Continues third) : first.Continues third := by
  refine ⟨late.metadata.trans early.metadata, ?_⟩
  rcases late.spec with kept | hidden
  · rw [kept]
    exact early.spec
  · exact .inr hidden

/-- A pod as it is seen at its end continues the pod. -/
theorem Rehearsal.continues_observed (pod : Pod) (script : PodScript) :
    pod.Continues (observed pod script) := by
  refine ⟨rfl, ?_⟩
  cases hidden : script.withoutSpec with
  | true => exact .inr (by simp [observed, hidden])
  | false => exact .inl (by simp [observed, hidden])

namespace Store

/-! ## Stores in which nothing is stored twice -/

/-- Every place has at most one object. -/
def Distinct (store : Store) : Prop := (store.entries.map (·.1)).Nodup

/-- The store without objects stores nothing twice. -/
theorem distinct_empty : empty.Distinct := List.nodup_nil

/-- Leaving out objects doubles none. -/
theorem Distinct.eraseIf {store : Store} (distinct : store.Distinct)
    (test : ObjectKey → Object → Bool) : (store.eraseIf test).Distinct :=
  distinct.sublist (List.Sublist.map _ List.filter_sublist)

/-- Putting an object in the place of another one doubles none. -/
theorem Distinct.put {store : Store} (distinct : store.Distinct) (key : ObjectKey)
    (object : Object) : (store.put key object).Distinct := by
  refine List.nodup_cons.2 ⟨fun member => ?_, distinct.eraseIf _⟩
  obtain ⟨entry, kept, same⟩ := List.mem_map.1 member
  have differs : (!(entry.1 == key)) = true := (List.mem_filter.1 kept).2
  rw [show entry.1 = key from same] at differs
  simp at differs

/-- Nothing is found at a place that is not listed. -/
theorem find?_eq_none {key : ObjectKey} {entries : List (ObjectKey × Object)}
    (unlisted : key ∉ entries.map (·.1)) : find? key entries = none := by
  induction entries with
  | nil => rfl
  | cons entry rest ih =>
    obtain ⟨other, object⟩ := entry
    rw [List.map_cons, List.mem_cons, not_or] at unlisted
    rw [find?, if_neg (Ne.symm unlisted.1)]
    exact ih unlisted.2

/-- Where nothing is stored twice, leaving out objects takes away exactly those. -/
theorem Distinct.get?_eraseIf {store : Store} (distinct : store.Distinct)
    (test : ObjectKey → Object → Bool) (key : ObjectKey) :
    (store.eraseIf test).get? key = (store.get? key).filter fun object => !test key object := by
  obtain ⟨entries⟩ := store
  change find? key (entries.filter _) = (find? key entries).filter _
  induction entries with
  | nil => rfl
  | cons entry rest ih =>
    obtain ⟨other, object⟩ := entry
    obtain ⟨fresh, tail⟩ := List.nodup_cons.1 distinct
    by_cases same : other = key
    · subst same
      by_cases gone : test other object = true
      · -- The only object at the place is left out, so nothing is found there.
        have empty := ih tail
        rw [find?_eq_none fresh] at empty
        simpa [find?, gone, Option.filter] using empty
      · simp [find?, gone, Option.filter]
    · by_cases gone : test other object = true
      · simpa [find?, same, gone] using ih tail
      · simpa [find?, same, gone] using ih tail

/-! ## What calls do -/

/-- Whether an object is a pod of a namespace that carries all of some labels. -/
def isPodWith (ns : String) (labels : StringMap String) (key : ObjectKey) (object : Object) :
    Bool :=
  key.kind == .pod && key.ns == ns && object.metadata.carries labels

/-- What becomes of an in-memory store when a call is answered in a certain way. -/
def Serves : Effect Cluster Store
  | .create ns object, .ok _, before, after =>
    before.get? (keyOf ns object) = none ∧ after = before.put (keyOf ns object) object
  | .deleteSecret ns name, .ok _, before, after => after = before.erase ⟨.secret, ns, name⟩
  | .deletePods ns labels, .ok _, before, after =>
    ∀ key, after.get? key =
      (before.get? key).filter fun object => !isPodWith ns labels key object
  | .submitPod pod, .ok _, before, after => after = before.put pod.place (.pod pod)
  | .submitPod pod, .error _, before, after => after = before ∨ after = before.erase pod.place
  | .awaitPod _ ns name, _, before, after =>
    after = before ∨ ∃ object pod, before.get? ⟨.pod, ns, name⟩ = some object ∧
      (object.pod?.getD {}).Continues pod ∧ after = before.put ⟨.pod, ns, name⟩ (.pod pod)
  | _, _, before, after => after = before

end Store

/-- The place that a call looks at. -/
def ClusterCall.place? : ClusterCall → Option ObjectKey
  | .create ns object => some (Store.keyOf ns object)
  | .readSecret ns name | .deleteSecret ns name => some ⟨.secret, ns, name⟩
  | .submitPod pod => some pod.place
  | .awaitPod _ ns name => some ⟨.pod, ns, name⟩
  | .deletePods .. | .pullSpec .. | .isCancelled .. => none

/-- What a call does not look at stays as it is, apart from pods that are deleted by their
labels. -/
theorem Store.Serves.elsewhere {asked : ClusterCall} {answer : asked.Answer} {before after : Store}
    {key : ObjectKey} (served : Store.Serves asked answer before after)
    (elsewhere : asked.place? ≠ some key)
    (unmarked : ∀ ns labels, asked = .deletePods ns labels →
      ∀ object, before.get? key = some object → isPodWith ns labels key object = false) :
    after.get? key = before.get? key := by
  have differs : ∀ {place}, asked.place? = some place → key ≠ place := by
    rintro place here rfl
    exact elsewhere here
  have same : after = before → after.get? key = before.get? key :=
    congrArg fun store : Store => store.get? key
  cases asked with
  | create ns object =>
    cases answer with
    | error error => exact same served
    | ok created => rw [served.2, get?_put, if_neg (differs rfl)]
  | readSecret | pullSpec | isCancelled => exact same served
  | deleteSecret ns name =>
    cases answer with
    | error error => exact same served
    | ok deleted =>
      obtain rfl : after = before.erase ⟨.secret, ns, name⟩ := served
      rw [get?_erase, if_neg (differs rfl)]
  | deletePods ns labels =>
    cases answer with
    | error error => exact same served
    | ok deleted =>
      rw [served]
      cases there : before.get? key with
      | none => rfl
      | some object => simp [unmarked ns labels rfl object there]
  | submitPod pod =>
    cases answer with
    | ok accepted =>
      obtain rfl : after = before.put pod.place (.pod pod) := served
      rw [get?_put, if_neg (differs rfl)]
    | error error =>
      rcases served with kept | erased
      · exact same kept
      · rw [erased, get?_erase, if_neg (differs rfl)]
  | awaitPod token ns name =>
    rcases served with kept | ⟨object, seen, _, _, rfl⟩
    · exact same kept
    · rw [get?_put, if_neg (differs rfl)]

namespace Rehearsal

/-! ## A rehearsal answers as an in-memory store -/

/-- One act after the other begins where the first one ends. -/
theorem act_bind {α β : Type} (first : Act α) (second : α → Act β) (state : Rehearsal) :
    (first >>= second) state = second (first state).1 (first state).2 := rfl

/-- A pod that is accepted stands in its place, and one that is not may have cost the one that
stood there. -/
theorem submitPod_cases (pod : Pod) (state : Rehearsal) :
    let result := submitPod pod state
    (result.1 = .ok () ∧ result.2.store = state.store.put pod.place (.pod pod)) ∨
      ∃ error, result.1 = .error error ∧
        (result.2.store = state.store ∨ result.2.store = state.store.erase pod.place) := by
  have creating : ∀ state, let result := create (pod.metadata.ns.getD "") (.pod pod) state
      (result.1 = .ok () ∧ result.2.store = state.store.put pod.place (.pod pod)) ∨
        ∃ error, result.1 = .error error ∧ result.2.store = state.store := by
    intro state result
    rcases (create_cases (pod.metadata.ns.getD "") (.pod pod) state).2 with
      ⟨failure, _, method, what, name, failed, same⟩ | ⟨_, _, ⟨error, failed, _⟩, same⟩ |
      ⟨_, created, put⟩
    · exact .inr ⟨_, failed, same⟩
    · exact .inr ⟨error, failed, same⟩
    · exact .inl ⟨created, put⟩
  intro result
  rcases creating state with ⟨created, put⟩ | ⟨error, refused, same⟩
  · -- The first creation goes well, and is the whole call.
    have whole : result = (.ok (), (create (pod.metadata.ns.getD "") (.pod pod) state).2) := by
      simp only [result, submitPod, act_bind, created]
      rfl
    rw [whole]
    exact .inl ⟨rfl, put⟩
  · generalize first : create (pod.metadata.ns.getD "") (.pod pod) state = made at refused same
    obtain ⟨answer, between⟩ := made
    obtain rfl : answer = .error error := refused
    have same : between.store = state.store := same
    by_cases already : error.kind = .alreadyExists
    · -- The pod that is left over is deleted before the second creation.
      generalize second : delete ⟨.pod, pod.metadata.ns.getD "", pod.displayName⟩ between = gone
      have erased : gone.2.store = state.store ∨ gone.2.store = state.store.erase pod.place := by
        have cases := (delete_cases ⟨.pod, pod.metadata.ns.getD "", pod.displayName⟩ between).2
        rw [second, same] at cases
        rcases cases with ⟨_, _, _, _, kept⟩ | ⟨_, _, kept⟩ | ⟨_, _, _, taken⟩
        · exact .inl kept
        · exact .inl kept
        · exact .inr taken
      cases tolerated : ClientError.tolerate .notFound gone.1 with
      | error other =>
        have whole : result = (.error other, gone.2) := by
          simp only [result, submitPod, act_bind, first, already, if_true, second,
            tolerated]
          rfl
        rw [whole]
        exact .inr ⟨other, rfl, erased⟩
      | ok deleted =>
        have whole : result = create (pod.metadata.ns.getD "") (.pod pod) gone.2 := by
          simp only [result, submitPod, act_bind, first, already, if_true, second,
            tolerated]
        rw [whole]
        rcases creating gone.2 with ⟨created, put⟩ | ⟨other, failed, kept⟩
        · refine .inl ⟨created, put.trans ?_⟩
          rcases erased with kept | taken
          · rw [kept]
          · rw [taken, Store.put_erase]
        · exact .inr ⟨other, failed, by rw [kept]; exact erased⟩
    · have whole : result = (.error error, between) := by
        simp only [result, submitPod, act_bind, first, already, if_false]
        rfl
      rw [whole]
      exact .inr ⟨error, rfl, .inl same⟩

/-- A pod that is watched is not there, or is seen as it is at its end. -/
theorem awaitPod_cases (token : Token) (ns name : String) (state : Rehearsal) :
    let result := awaitPod token ns name state
    result.2.store = state.store ∨
      ∃ object script, state.store.get? ⟨.pod, ns, name⟩ = some object ∧
        result.2.store = state.store.put ⟨.pod, ns, name⟩
          (.pod (observed (object.pod?.getD {}) script)) := by
  intro result
  have reading := (read_cases ⟨.pod, ns, name⟩ state).2
  generalize first : read ⟨.pod, ns, name⟩ state = made at reading
  obtain ⟨answer, between⟩ := made
  obtain ⟨same, served⟩ := reading
  have same : between.store = state.store := same
  cases answer with
  | error error =>
    have whole : result.2 = between := by
      simp only [result, awaitPod, act_bind, first]
      rfl
    rw [whole]
    exact .inl same
  | ok object =>
    rcases served with ⟨_, _, _, failed⟩ | ⟨_, _, failed⟩ | ⟨stored, found, answered⟩
    · cases failed
    · cases failed
    · cases answered
      refine .inr ⟨object, (nextScript name between).1, found, ?_⟩
      have whole : result.2.store = between.store.put ⟨.pod, ns, name⟩
          (.pod (observed (object.pod?.getD {}) (nextScript name between).1)) := by
        simp only [result, awaitPod, act_bind, first]
        rfl
      rw [whole, same]

/-- A rehearsal in which nothing is stored twice answers as an in-memory store, and stores nothing
twice. -/
theorem serves_handler (asked : ClusterCall) (state : Rehearsal)
    (distinct : state.store.Distinct) :
    Store.Serves asked (handler asked state).1 state.store (handler asked state).2.store ∧
      (handler asked state).2.store.Distinct := by
  cases asked with
  | create ns object =>
    change Store.Serves (.create ns object) (create ns object state).1 state.store
      (create ns object state).2.store ∧ (create ns object state).2.store.Distinct
    rcases (create_cases ns object state).2 with ⟨_, _, _, _, _, failed, same⟩ |
      ⟨_, _, ⟨_, failed, _⟩, same⟩ | ⟨absent, created, put⟩
    · rw [failed, same]
      exact ⟨rfl, distinct⟩
    · rw [failed, same]
      exact ⟨rfl, distinct⟩
    · rw [created, put]
      exact ⟨⟨absent, rfl⟩, distinct.put _ _⟩
  | readSecret ns name =>
    obtain ⟨_, same, _⟩ := read_cases ⟨.secret, ns, name⟩ state
    change Store.Serves (.readSecret ns name) _ state.store
      (read ⟨.secret, ns, name⟩ state).2.store ∧ (read ⟨.secret, ns, name⟩ state).2.store.Distinct
    rw [same]
    exact ⟨rfl, distinct⟩
  | deleteSecret ns name =>
    change Store.Serves (.deleteSecret ns name) (delete ⟨.secret, ns, name⟩ state).1 state.store
      (delete ⟨.secret, ns, name⟩ state).2.store ∧
        (delete ⟨.secret, ns, name⟩ state).2.store.Distinct
    rcases (delete_cases ⟨.secret, ns, name⟩ state).2 with ⟨_, _, _, failed, same⟩ |
      ⟨_, ⟨_, failed, _⟩, same⟩ | ⟨_, _, deleted, erased⟩
    · rw [failed, same]
      exact ⟨rfl, distinct⟩
    · rw [failed, same]
      exact ⟨rfl, distinct⟩
    · rw [deleted, erased]
      exact ⟨rfl, distinct.eraseIf _⟩
  | deletePods ns labels =>
    change Store.Serves (.deletePods ns labels) (deletePods ns labels state).1 state.store
      (deletePods ns labels state).2.store ∧ (deletePods ns labels state).2.store.Distinct
    obtain ⟨_, ⟨_, _, failed, same⟩ | ⟨_, refused, _⟩ | ⟨_, deleted, answered⟩⟩ :=
      act_cases "delete_all_of" ObjectKind.pod.name ObjectKind.pod.name ns ""
        (some ((Codec.map .text).print labels))
        (fun store => .ok ((), store.deleteAll .pod ns labels)) state
    · rw [show (deletePods ns labels state).1 = _ from failed,
        show (deletePods ns labels state).2.store = _ from same]
      exact ⟨rfl, distinct⟩
    · cases refused
    · have left : (deletePods ns labels state).2.store = state.store.deleteAll .pod ns labels :=
        (Prod.mk.inj (Except.ok.inj deleted)).2.symm
      rw [show (deletePods ns labels state).1 = _ from answered, left]
      exact ⟨distinct.get?_eraseIf _, distinct.eraseIf _⟩
  | submitPod pod =>
    change Store.Serves (.submitPod pod) (submitPod pod state).1 state.store
      (submitPod pod state).2.store ∧ (submitPod pod state).2.store.Distinct
    rcases submitPod_cases pod state with ⟨accepted, put⟩ | ⟨_, refused, same | erased⟩
    · rw [accepted, put]
      exact ⟨rfl, distinct.put _ _⟩
    · rw [refused, same]
      exact ⟨.inl rfl, distinct⟩
    · rw [refused, erased]
      exact ⟨.inr rfl, distinct.eraseIf _⟩
  | awaitPod token ns name =>
    change Store.Serves (.awaitPod token ns name) _ state.store
      (awaitPod token ns name state).2.store ∧ (awaitPod token ns name state).2.store.Distinct
    rcases awaitPod_cases token ns name state with same | ⟨object, script, found, put⟩
    · rw [same]
      exact ⟨.inl rfl, distinct⟩
    · rw [put]
      exact ⟨.inr ⟨object, _, found, continues_observed _ script, rfl⟩, distinct.put _ _⟩
  | pullSpec ns image =>
    change Store.Serves (.pullSpec ns image) _ state.store (pullSpec ns image state).2.store ∧
      (pullSpec ns image state).2.store.Distinct
    rw [(store_pullSpec ns image state).2]
    exact ⟨rfl, distinct⟩
  | isCancelled token => cases token <;> exact ⟨rfl, distinct⟩

/-- The calls of a run in a rehearsal lead from its store to the store in which the run ends. -/
theorem follows_serves {α : Type} (program : Program Cluster α) (state : Rehearsal)
    (distinct : state.store.Distinct) :
    Follows Store.Serves state.store (program.trace handler state)
      (program.run handler state).2.store :=
  follows_run handler (·.store) (fun asked state distinct => serves_handler asked state distinct)
    program distinct

end Rehearsal

end StagedTest
