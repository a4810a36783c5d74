import StagedTest.Proofs.StoreSteps

/-!
# The store of a rehearsal

The in-memory store of rehearsals answers as a store: whatever failures are scripted, its calls
are steps of a store, truthful ones if no scripted failure says that an object is already there,
and calm ones without scripted failures. So what holds of all stores holds of every rehearsal.
-/
namespace StagedTest

open Program

namespace Rehearsal

variable {α β : Type}

/-! ## Calls of a rehearsal -/

/-- Counting a call changes no failure, and a failure that fires is one of the script. -/
theorem countCall_errors (method what name : String) (failures : List ScriptedFailure) :
    (countCall method what name failures).1.map (·.error) = failures.map (·.error) ∧
      ∀ error, (countCall method what name failures).2 = some error →
        ∃ failure ∈ failures, error = failure.error method what name := by
  induction failures with
  | nil => exact ⟨rfl, fun error fired => by cases fired⟩
  | cons failure rest ih =>
    obtain ⟨kept, listed⟩ := ih
    have later : ∀ error, (countCall method what name rest).2 = some error →
        ∃ other ∈ failure :: rest, error = other.error method what name := by
      intro error fired
      obtain ⟨other, member, blamed⟩ := listed error fired
      exact ⟨other, List.mem_cons_of_mem _ member, blamed⟩
    rw [countCall]
    generalize countCall method what name rest = counted at kept later ⊢
    obtain ⟨remaining, scripted⟩ := counted
    dsimp only
    split
    · split
      · refine ⟨rfl, fun error fired => ⟨failure, List.mem_cons_self, ?_⟩⟩
        exact (Option.some.inj fired).symm
      · exact ⟨congrArg (failure.error :: ·) kept, later⟩
    · exact ⟨congrArg (failure.error :: ·) kept, later⟩

/-- A call fails by the script and leaves the store alone, or the store answers it. -/
theorem act_cases (method what recordedKind ns name : String) (body : Option Value)
    (effect : Store → Except ClientError (α × Store)) (state : Rehearsal) :
    let result := act method what recordedKind ns name body effect state
    result.2.failures.map (·.error) = state.failures.map (·.error) ∧
      ((∃ failure ∈ state.failures, result.1 = .error (failure.error method what name) ∧
          result.2.store = state.store) ∨
        (∃ error, effect state.store = .error error ∧ result.1 = .error error ∧
          result.2.store = state.store) ∨
        ∃ value, effect state.store = .ok (value, result.2.store) ∧ result.1 = .ok value) := by
  intro result
  obtain ⟨kept, listed⟩ := countCall_errors method what name state.failures
  refine ⟨kept, ?_⟩
  cases scripted : (countCall method what name state.failures).2 with
  | some error =>
    obtain ⟨failure, member, rfl⟩ := listed error scripted
    exact .inl ⟨failure, member, by simp [result, act, scripted, outcome]⟩
  | none =>
    cases served : effect state.store with
    | error error =>
      exact .inr (.inl ⟨error, rfl, by simp [result, act, scripted, outcome, served]⟩)
    | ok answer =>
      exact .inr (.inr ⟨answer.1, by simp [result, act, scripted, outcome, served]⟩)

/-- An object is created unless it is scripted that the call fails, or the object is there. -/
theorem create_cases (ns : String) (object : Object) (state : Rehearsal) :
    let result := create ns object state
    result.2.failures.map (·.error) = state.failures.map (·.error) ∧
      ((∃ failure ∈ state.failures, ∃ method what name,
          result.1 = .error (failure.error method what name) ∧ result.2.store = state.store) ∨
        (∃ stored, state.store.get? (Store.keyOf ns object) = some stored ∧
          (∃ error, result.1 = .error error ∧ error.kind = .alreadyExists) ∧
          result.2.store = state.store) ∨
        state.store.get? (Store.keyOf ns object) = none ∧ result.1 = .ok () ∧
          result.2.store = state.store.put (Store.keyOf ns object) object) := by
  intro result
  obtain ⟨kept, ⟨failure, member, failed⟩ | ⟨error, refused, same⟩ | ⟨value, created, answered⟩⟩ :=
    act_cases "create" object.kind.name object.kind.name ns object.displayName (some object.print)
      (fun store => (store.create ns object).map fun store => ((), store)) state
  · exact ⟨kept, .inl ⟨failure, member, _, _, _, failed⟩⟩
  · cases found : state.store.get? (Store.keyOf ns object) with
    | none => simp [Store.create, found, Except.map] at refused
    | some stored =>
      simp only [Store.create, found, Except.map, Except.error.injEq] at refused
      exact ⟨kept, .inr (.inl ⟨stored, rfl, ⟨error, same.1, refused ▸ rfl⟩, same.2⟩)⟩
  · cases found : state.store.get? (Store.keyOf ns object) with
    | some stored => simp [Store.create, found, Except.map] at created
    | none =>
      simp only [Store.create, found, Except.map, Except.ok.injEq, Prod.mk.injEq] at created
      exact ⟨kept, .inr (.inr ⟨rfl, answered, created.2.symm⟩)⟩

/-- An object is read unless it is scripted that the call fails, or the object is not there. -/
theorem read_cases (key : ObjectKey) (state : Rehearsal) :
    let result := read key state
    result.2.failures.map (·.error) = state.failures.map (·.error) ∧
      result.2.store = state.store ∧
      ((∃ failure ∈ state.failures, ∃ error, result.1 = .error error) ∨
        (state.store.get? key = none ∧ ∃ error, result.1 = .error error) ∨
        ∃ stored, state.store.get? key = some stored ∧ result.1 = .ok stored) := by
  intro result
  obtain ⟨kept, ⟨failure, member, failed, same⟩ | ⟨error, refused, failed, same⟩ |
    ⟨value, served, answered⟩⟩ :=
    act_cases "get" key.kind.name key.kind.name key.ns key.name none
      (fun store => (store.read key).map fun object => (object, store)) state
  · exact ⟨kept, same, .inl ⟨failure, member, _, failed⟩⟩
  · cases found : state.store.get? key with
    | none => exact ⟨kept, same, .inr (.inl ⟨rfl, error, failed⟩)⟩
    | some stored => simp [Store.read, found, Except.map] at refused
  · cases found : state.store.get? key with
    | none => simp [Store.read, found, Except.map] at served
    | some stored =>
      simp only [Store.read, found, Except.map, Except.ok.injEq, Prod.mk.injEq] at served
      exact ⟨kept, served.2.symm, .inr (.inr ⟨stored, rfl, served.1 ▸ answered⟩)⟩

/-- An object is deleted unless it is scripted that the call fails, or the object is not there. -/
theorem delete_cases (key : ObjectKey) (state : Rehearsal) :
    let result := delete key state
    result.2.failures.map (·.error) = state.failures.map (·.error) ∧
      ((∃ failure ∈ state.failures, ∃ error,
          result.1 = .error error ∧ result.2.store = state.store) ∨
        (state.store.get? key = none ∧
          (∃ error, result.1 = .error error ∧ error.kind = .notFound) ∧
          result.2.store = state.store) ∨
        ∃ stored, state.store.get? key = some stored ∧ result.1 = .ok () ∧
          result.2.store = state.store.erase key) := by
  intro result
  obtain ⟨kept, ⟨failure, member, failed⟩ | ⟨error, refused, same⟩ | ⟨value, deleted, answered⟩⟩ :=
    act_cases "delete" key.kind.name key.kind.name key.ns key.name none
      (fun store => (store.delete key).map fun store => ((), store)) state
  · exact ⟨kept, .inl ⟨failure, member, _, failed⟩⟩
  · cases found : state.store.get? key with
    | none =>
      simp only [Store.delete, found, Except.map, Except.error.injEq] at refused
      exact ⟨kept, .inr (.inl ⟨rfl, ⟨error, same.1, refused ▸ rfl⟩, same.2⟩)⟩
    | some stored => simp [Store.delete, found, Except.map] at refused
  · cases found : state.store.get? key with
    | none => simp [Store.delete, found, Except.map] at deleted
    | some stored =>
      simp only [Store.delete, found, Except.map, Except.ok.injEq, Prod.mk.injEq] at deleted
      exact ⟨kept, .inr (.inr ⟨stored, rfl, answered, deleted.2.symm⟩)⟩

/-! ## Pods of a rehearsal -/

/-- An act that changes only pods. -/
def OnlyPods (act : Act α) : Prop :=
  ∀ state, (act state).2.failures.map (·.error) = state.failures.map (·.error) ∧
    Store.SameButPods state.store (act state).2.store

/-- One act after the other changes only pods if both do. -/
theorem OnlyPods.bind {first : Act α} {second : α → Act β} (head : OnlyPods first)
    (tail : ∀ value, OnlyPods (second value)) : OnlyPods (first >>= second) := by
  intro state
  obtain ⟨kept, same⟩ := head state
  obtain ⟨keptLater, sameLater⟩ := tail (first state).1 (first state).2
  refine ⟨keptLater.trans kept, fun key noPod => ?_⟩
  exact (sameLater key noPod).trans (same key noPod)

/-- An act without calls changes nothing. -/
theorem onlyPods_pure (value : α) : OnlyPods (pure value : Act α) :=
  fun _ => ⟨rfl, fun _ _ => rfl⟩

/-- Creating a pod changes only pods. -/
theorem onlyPods_createPod (ns : String) (pod : Pod) : OnlyPods (create ns (.pod pod)) := by
  intro state
  obtain ⟨kept, served⟩ := create_cases ns (.pod pod) state
  refine ⟨kept, fun key noPod => ?_⟩
  rcases served with ⟨_, _, _, _, _, _, same⟩ | ⟨_, _, _, same⟩ | ⟨_, _, created⟩
  · rw [same]
  · rw [same]
  · have differ : key ≠ Store.keyOf ns (.pod pod) := by
      rintro rfl
      exact noPod rfl
    rw [created, Store.get?_put, if_neg differ]

/-- Deleting a pod changes only pods. -/
theorem onlyPods_deletePod (ns name : String) : OnlyPods (delete ⟨.pod, ns, name⟩) := by
  intro state
  obtain ⟨kept, served⟩ := delete_cases ⟨.pod, ns, name⟩ state
  refine ⟨kept, fun key noPod => ?_⟩
  rcases served with ⟨_, _, _, _, same⟩ | ⟨_, _, same⟩ | ⟨_, _, _, deleted⟩
  · rw [same]
  · rw [same]
  · have differ : key ≠ ⟨.pod, ns, name⟩ := by
      rintro rfl
      exact noPod rfl
    rw [deleted, Store.get?_erase, if_neg differ]

/-- Handing over a pod changes only pods. -/
theorem onlyPods_submitPod (pod : Pod) : OnlyPods (submitPod pod) := by
  refine (onlyPods_createPod _ _).bind fun created => ?_
  cases created with
  | ok accepted => exact onlyPods_pure _
  | error error =>
    dsimp only
    split
    · refine (onlyPods_deletePod _ _).bind fun deleted => ?_
      split
      · exact onlyPods_createPod _ _
      · exact onlyPods_pure _
    · exact onlyPods_pure _

/-- Deleting the pods that carry all of some labels changes only pods. -/
theorem onlyPods_deletePods (ns : String) (labels : StringMap String) :
    OnlyPods (deletePods ns labels) := by
  intro state
  obtain ⟨kept, served⟩ := act_cases "delete_all_of" ObjectKind.pod.name ObjectKind.pod.name ns ""
    (some ((Codec.map .text).print labels))
    (fun store => .ok ((), store.deleteAll .pod ns labels)) state
  refine ⟨kept, fun key noPod => ?_⟩
  rcases served with ⟨_, _, _, same⟩ | ⟨_, refused, _⟩ | ⟨_, deleted, _⟩
  · exact congrArg (·.get? key) same
  · cases refused
  · have left : state.store.deleteAll .pod ns labels = (deletePods ns labels state).2.store :=
      (Prod.mk.inj (Except.ok.inj deleted)).2
    rw [← left]
    exact Store.get?_eraseIf state.store fun object => by simp [noPod]

/-- Watching a pod changes only pods. -/
theorem onlyPods_awaitPod (token : Token) (ns name : String) :
    OnlyPods (awaitPod token ns name) := by
  have reading : OnlyPods (read ⟨.pod, ns, name⟩) := by
    intro state
    obtain ⟨kept, same, _⟩ := read_cases ⟨.pod, ns, name⟩ state
    exact ⟨kept, fun key _ => by rw [same]⟩
  refine reading.bind fun result => ?_
  cases result with
  | error error => exact onlyPods_pure _
  | ok object =>
    have scripted : OnlyPods (nextScript name) := fun _ => ⟨rfl, fun _ _ => rfl⟩
    refine scripted.bind fun script => ?_
    have finished : ∀ pod, OnlyPods (finishPod token ns name pod script) := by
      refine fun pod state => ⟨rfl, fun key noPod => ?_⟩
      have differ : key ≠ ⟨.pod, ns, name⟩ := by
        rintro rfl
        exact noPod rfl
      change (state.store.put ⟨.pod, ns, name⟩ (.pod pod)).get? key = _
      rw [Store.get?_put, if_neg differ]
    exact (finished _).bind fun _ => onlyPods_pure _

/-- A call leaves the store alone if the store's answer does. -/
theorem act_keeps {method what recordedKind ns name : String} {body : Option Value}
    {effect : Store → Except ClientError (α × Store)} {state : Rehearsal}
    (keeps : ∀ value after, effect state.store = .ok (value, after) → after = state.store) :
    (act method what recordedKind ns name body effect state).2.failures.map (·.error) =
        state.failures.map (·.error) ∧
      (act method what recordedKind ns name body effect state).2.store = state.store := by
  obtain ⟨kept, ⟨_, _, _, same⟩ | ⟨_, _, _, same⟩ | ⟨_, found, _⟩⟩ :=
    act_cases method what recordedKind ns name body effect state
  · exact ⟨kept, same⟩
  · exact ⟨kept, same⟩
  · exact ⟨kept, keeps _ _ found⟩

/-- Looking up an image changes nothing in the store. -/
theorem store_pullSpec (ns : String) (image : ImageTag) (state : Rehearsal) :
    (pullSpec ns image state).2.failures.map (·.error) = state.failures.map (·.error) ∧
      (pullSpec ns image state).2.store = state.store := by
  refine act_keeps fun value after found => ?_
  split at found
  · cases found
    rfl
  · cases found

/-! ## Answers of a rehearsal -/

/-- Nobody scripts a failure that says that an object is already there. -/
def Truthful (failures : List ScriptedFailure) : Prop :=
  ∀ error ∈ failures.map (·.error), ∀ method what name,
    (error method what name).kind ≠ .alreadyExists

/-- A rehearsal answers as a store, and as a truthful one if its script is truthful. -/
theorem step_handler {truthful : Prop} (asked : ClusterCall) (state : Rehearsal)
    (honest : truthful → Truthful state.failures) :
    Store.Step truthful asked (handler asked state).1 state.store (handler asked state).2.store ∧
      (truthful → Truthful (handler asked state).2.failures) := by
  have stays : ∀ {next : Rehearsal},
      next.failures.map (·.error) = state.failures.map (·.error) →
        truthful → Truthful next.failures := by
    intro next kept holds
    rw [Truthful, kept]
    exact honest holds
  cases asked with
  | create ns object =>
    obtain ⟨kept, served⟩ := create_cases ns object state
    refine ⟨?_, stays kept⟩
    change Store.Step truthful (.create ns object) (create ns object state).1 state.store
      (create ns object state).2.store
    rcases served with ⟨failure, member, method, what, name, failed, same⟩ |
      ⟨stored, found, ⟨error, failed, _⟩, same⟩ | ⟨absent, created, put⟩
    · rw [failed, same]
      refine ⟨fun holds already => ?_, .inl rfl⟩
      exact absurd already (honest holds _ (List.mem_map_of_mem member) method what name)
    · rw [failed, same]
      exact ⟨fun _ _ => by rw [found]; rfl, .inl rfl⟩
    · rw [created, put]
      exact ⟨absent, rfl⟩
  | readSecret ns name =>
    obtain ⟨kept, same, served⟩ := read_cases ⟨.secret, ns, name⟩ state
    refine ⟨?_, stays kept⟩
    change Store.Step truthful (.readSecret ns name)
      ((read ⟨.secret, ns, name⟩ state).1.map fun object => object.secret?.getD {}) state.store
      (read ⟨.secret, ns, name⟩ state).2.store
    rw [same]
    rcases served with ⟨_, _, error, failed⟩ | ⟨_, error, failed⟩ | ⟨stored, found, answered⟩
    · rw [failed]
      exact rfl
    · rw [failed]
      exact rfl
    · rw [answered]
      exact ⟨rfl, stored, found, rfl⟩
  | deleteSecret ns name =>
    obtain ⟨kept, served⟩ := delete_cases ⟨.secret, ns, name⟩ state
    refine ⟨?_, stays kept⟩
    change Store.Step truthful (.deleteSecret ns name) (delete ⟨.secret, ns, name⟩ state).1
      state.store (delete ⟨.secret, ns, name⟩ state).2.store
    rcases served with ⟨_, _, error, failed, same⟩ | ⟨_, ⟨error, failed, _⟩, same⟩ |
      ⟨stored, found, answered, erased⟩
    · rw [failed, same]
      exact .inl rfl
    · rw [failed, same]
      exact .inl rfl
    · rw [answered, erased]
      exact rfl
  | deletePods ns labels =>
    obtain ⟨kept, same⟩ := onlyPods_deletePods ns labels state
    exact ⟨same, stays kept⟩
  | submitPod pod =>
    obtain ⟨kept, same⟩ := onlyPods_submitPod pod state
    exact ⟨same, stays kept⟩
  | awaitPod token ns name =>
    obtain ⟨kept, same⟩ := onlyPods_awaitPod token ns name state
    exact ⟨same, stays kept⟩
  | pullSpec ns image =>
    obtain ⟨kept, same⟩ := store_pullSpec ns image state
    exact ⟨same, stays kept⟩
  | isCancelled token => cases token <;> exact ⟨rfl, honest⟩

/-- A rehearsal without scripted failures answers as a calm store. -/
theorem calmStep_handler (asked : ClusterCall) (state : Rehearsal) (calm : state.failures = []) :
    Store.CalmStep asked (handler asked state).1 state.store (handler asked state).2.store ∧
      (handler asked state).2.failures = [] := by
  have stays : ∀ {next : Rehearsal},
      next.failures.map (·.error) = state.failures.map (·.error) → next.failures = [] := by
    intro next kept
    rw [calm] at kept
    exact List.map_eq_nil_iff.1 kept
  have never : ∀ failure, failure ∉ state.failures := by simp [calm]
  cases asked with
  | create ns object =>
    obtain ⟨kept, served⟩ := create_cases ns object state
    refine ⟨?_, stays kept⟩
    change Store.CalmStep (.create ns object) (create ns object state).1 state.store
      (create ns object state).2.store
    rcases served with ⟨failure, member, _⟩ | ⟨stored, found, failed, same⟩ |
      ⟨absent, created, put⟩
    · exact absurd member (never failure)
    · simp only [Store.CalmStep, found]
      exact ⟨failed, same⟩
    · simp only [Store.CalmStep, absent]
      exact ⟨created, put⟩
  | readSecret ns name =>
    obtain ⟨kept, same, served⟩ := read_cases ⟨.secret, ns, name⟩ state
    refine ⟨?_, stays kept⟩
    change Store.CalmStep (.readSecret ns name)
      ((read ⟨.secret, ns, name⟩ state).1.map fun object => object.secret?.getD {}) state.store
      (read ⟨.secret, ns, name⟩ state).2.store
    rcases served with ⟨failure, member, _⟩ | ⟨absent, error, failed⟩ | ⟨stored, found, answered⟩
    · exact absurd member (never failure)
    · simp only [Store.CalmStep, absent, failed]
      exact ⟨same, error, rfl⟩
    · simp only [Store.CalmStep, found, answered]
      exact ⟨same, rfl⟩
  | deleteSecret ns name =>
    obtain ⟨kept, served⟩ := delete_cases ⟨.secret, ns, name⟩ state
    refine ⟨?_, stays kept⟩
    change Store.CalmStep (.deleteSecret ns name) (delete ⟨.secret, ns, name⟩ state).1
      state.store (delete ⟨.secret, ns, name⟩ state).2.store
    rcases served with ⟨failure, member, _⟩ | ⟨absent, failed, same⟩ |
      ⟨stored, found, answered, erased⟩
    · exact absurd member (never failure)
    · simp only [Store.CalmStep, absent]
      exact ⟨failed, same⟩
    · simp only [Store.CalmStep, found]
      exact ⟨answered, erased⟩
  | deletePods ns labels =>
    obtain ⟨kept, same⟩ := onlyPods_deletePods ns labels state
    exact ⟨same, stays kept⟩
  | submitPod pod =>
    obtain ⟨kept, same⟩ := onlyPods_submitPod pod state
    exact ⟨same, stays kept⟩
  | awaitPod token ns name =>
    obtain ⟨kept, same⟩ := onlyPods_awaitPod token ns name state
    exact ⟨same, stays kept⟩
  | pullSpec ns image =>
    obtain ⟨kept, same⟩ := store_pullSpec ns image state
    exact ⟨same, stays kept⟩
  | isCancelled token => cases token <;> exact ⟨rfl, calm⟩

/-- The calls of a program in a rehearsal are steps of its store. -/
theorem follows_step (truthful : Prop) (program : Program Cluster α) (state : Rehearsal)
    (honest : truthful → Truthful state.failures) :
    Follows (Store.Step truthful) state.store (program.trace handler state)
      (program.run handler state).2.store :=
  follows_run handler (·.store) (fun asked state honest => step_handler asked state honest) program
    honest

/-- The calls of a program in a rehearsal without scripted failures are steps of a calm store. -/
theorem follows_calmStep (program : Program Cluster α) (state : Rehearsal)
    (calm : state.failures = []) :
    Follows Store.CalmStep state.store (program.trace handler state)
      (program.run handler state).2.store :=
  follows_run handler (·.store) (fun asked state calm => calmStep_handler asked state calm) program
    calm

end Rehearsal

end StagedTest
