import StagedTest.Proofs.DirectCalls

/-!
# Calls without scripted failures

Where no failures are scripted, a call does the same to each place whatever is stored elsewhere:
`Direct.cell` says what becomes of the object at a place. An answer depends on at most one place,
on the script, and on whether the run was called off. So two clusters that agree on what a call
looks at give the same answer, and agree afterwards wherever they agreed before.
-/
namespace StagedTest

namespace Rehearsal

/-- Nothing is scripted to fail, and nothing is stored twice. -/
structure Calm (state : Rehearsal) : Prop where
  /-- No call is scripted to fail. -/
  failures : state.failures = []
  /-- Nothing is stored twice. -/
  distinct : state.store.Distinct

/-- A rehearsal without its objects and without what was written down. -/
def bare (state : Rehearsal) : Rehearsal := { state with store := {}, calls := [] }

/-! ## Single calls -/

section Calls

variable {state : Rehearsal}

/-- Without scripted failures a call comes to what the store answers. -/
theorem act_calm {α : Type} (calm : state.failures = []) (method what kind ns name : String)
    (body : Option Value) (effect : Store → Except ClientError (α × Store)) :
    let result := act method what kind ns name body effect state
    result.1 = (outcome none effect state.store).1 ∧
      result.2.store = (outcome none effect state.store).2 ∧ result.2.bare = state.bare := by
  simp [act, calm, countCall, bare]

/-- An object is created where there is none. -/
theorem create_calm (calm : state.failures = []) (ns : String) (object : Object) :
    let result := create ns object state
    let key := Store.keyOf ns object
    result.2.bare = state.bare ∧
      match state.store.get? key with
      | none => result.1 = .ok () ∧ result.2.store = state.store.put key object
      | some _ => result.1 = .error (Store.alreadyExists "create" key.kind.name key.name) ∧
          result.2.store = state.store := by
  intro result key
  obtain ⟨answer, store, rest⟩ := act_calm calm "create" object.kind.name object.kind.name ns
    object.displayName (some object.print)
    fun store => (store.create ns object).map fun store => ((), store)
  refine ⟨rest, ?_⟩
  cases found : state.store.get? key <;>
    simp only [Store.create, key, found, outcome, Except.map] at answer store <;>
    exact ⟨answer, store⟩

/-- An object is read where there is one. -/
theorem read_calm (calm : state.failures = []) (key : ObjectKey) :
    let result := read key state
    result.2.bare = state.bare ∧ result.2.store = state.store ∧
      result.1 = match state.store.get? key with
        | none => .error (Store.notFound "get" key.kind.name key.name)
        | some object => .ok object := by
  intro result
  obtain ⟨answer, store, rest⟩ := act_calm calm "get" key.kind.name key.kind.name key.ns key.name
    none fun store => (store.read key).map fun object => (object, store)
  refine ⟨rest, ?_⟩
  cases found : state.store.get? key <;>
    simp only [Store.read, found, outcome, Except.map] at answer store <;>
    exact ⟨store, answer⟩

/-- An object is deleted where there is one. -/
theorem delete_calm (calm : state.failures = []) (key : ObjectKey) :
    let result := delete key state
    result.2.bare = state.bare ∧
      match state.store.get? key with
      | none => result.1 = .error (Store.notFound "delete" key.kind.name key.name) ∧
          result.2.store = state.store
      | some _ => result.1 = .ok () ∧ result.2.store = state.store.erase key := by
  intro result
  obtain ⟨answer, store, rest⟩ := act_calm calm "delete" key.kind.name key.kind.name key.ns key.name
    none fun store => (store.delete key).map fun store => ((), store)
  refine ⟨rest, ?_⟩
  cases found : state.store.get? key <;>
    simp only [Store.delete, found, outcome, Except.map] at answer store <;>
    exact ⟨answer, store⟩

/-- What comes of a script besides the pod: the watching is counted, and it may call off the caller
or the cleanup. -/
def watched (token : Token) (name : String) (state : Rehearsal) : Rehearsal :=
  let script := (nextScript name state).1
  { (nextScript name state).2 with
    callerCancelled := state.callerCancelled || script.cancelsCaller ||
      (script.cancelsWait && token == .caller)
    detachedCancelled := state.detachedCancelled || (script.cancelsWait && token == .detached) }

/-- A watched pod that is there is seen at its end, as its script says. -/
theorem awaitPod_calm (calm : state.failures = []) (token : Token) (ns name : String) :
    let result := awaitPod token ns name state
    match state.store.get? ⟨.pod, ns, name⟩ with
    | none => result.2.bare = state.bare ∧ result.2.store = state.store ∧
        result.1 = { seen := [], result := .error (.unobservable
          (Store.notFound "get" ObjectKind.pod.name name)) }
    | some object =>
      let script := (nextScript name state).1
      let pod := observed (object.pod?.getD {}) script
      result.2.bare = watched token name state.bare ∧
        result.2.store = state.store.put ⟨.pod, ns, name⟩ (.pod pod) ∧
        result.1 = { seen := [pod], result := waitResult pod script } := by
  intro result
  obtain ⟨rest, store, answer⟩ := read_calm calm ⟨.pod, ns, name⟩
  generalize first : read ⟨.pod, ns, name⟩ state = made at rest store answer
  obtain ⟨found, between⟩ := made
  have rest : between.bare = state.bare := rest
  have store : between.store = state.store := store
  cases there : state.store.get? ⟨.pod, ns, name⟩ with
  | none =>
    simp only [there] at answer
    subst answer
    have whole : result = ({ seen := [], result := .error (.unobservable
        (Store.notFound "get" ObjectKind.pod.name name)) }, between) := by
      simp only [result, awaitPod, act_bind, first]
      rfl
    rw [whole]
    exact ⟨rest, store, rfl⟩
  | some object =>
    simp only [there] at answer
    subst answer
    -- The read has changed nothing but what is written down, which no script looks at.
    have scripted : (nextScript name between).1 = (nextScript name state).1 := by
      change (nextScript name between.bare).1 = (nextScript name state.bare).1
      rw [rest]
    have whole : result.2.bare = watched token name between.bare ∧
        result.2.store = between.store.put ⟨.pod, ns, name⟩
          (.pod (observed (object.pod?.getD {}) (nextScript name between).1)) ∧
        result.1 = { seen := [observed (object.pod?.getD {}) (nextScript name between).1]
                     result := waitResult
                      (observed (object.pod?.getD {}) (nextScript name between).1)
                      (nextScript name between).1 } := by
      simp only [result, awaitPod, act_bind, first]
      exact ⟨rfl, rfl, rfl⟩
    rw [whole.1, whole.2.1, whole.2.2, rest, store, scripted]
    exact ⟨rfl, rfl, rfl⟩

end Calls

end Rehearsal

namespace Direct

/-! ## What a call does and what it looks at -/

/-- The pod that a call watches. -/
def watched? : DirectCall → Option String
  | .ofRun (.awaitPod _ _ name) => some name
  | _ => none

/-- The place that a call looks at. -/
def place? : DirectCall → Option ObjectKey
  | .ofRun asked => asked.place?
  | .deletePod ns name => some ⟨.pod, ns, name⟩

/-- The script that a call follows. -/
def script (state : Rehearsal) (asked : DirectCall) : PodScript :=
  match watched? asked with
  | some name => (Rehearsal.nextScript name state).1
  | none => {}

/-- What becomes of the object at a place. -/
def cell (script : PodScript) (key : ObjectKey) (old : Option Object) :
    DirectCall → Option Object
  | .ofRun (.create ns object) =>
    if key = Store.keyOf ns object then some (old.getD object) else old
  | .ofRun (.deleteSecret ns name) => if key = ⟨.secret, ns, name⟩ then none else old
  | .ofRun (.deletePods ns labels) =>
    old.filter fun object => !Store.isPodWith ns labels key object
  | .ofRun (.awaitPod _ ns name) =>
    if key = ⟨.pod, ns, name⟩ then
      old.map fun object => .pod (Rehearsal.observed (object.pod?.getD {}) script)
    else old
  | .deletePod ns name => if key = ⟨.pod, ns, name⟩ then none else old
  | _ => old

/-- A call that is made one by one: any but the handing over of a pod. -/
def IsSingle (asked : DirectCall) : Prop := ∀ pod, asked ≠ .ofRun (.submitPod pod)

variable {state : Rehearsal}

/-- Without scripted failures, a call makes of each place what it makes of it anywhere. -/
theorem cell_handler (calm : state.Calm) {asked : DirectCall} (single : IsSingle asked)
    (key : ObjectKey) :
    (handler asked state).2.store.get? key =
      cell (script state asked) key (state.store.get? key) asked := by
  have erased : ∀ place, (Rehearsal.delete place state).2.store.get? key =
      if key = place then none else state.store.get? key := by
    intro place
    have deleted := (Rehearsal.delete_calm calm.failures place).2
    cases found : state.store.get? place with
    | none =>
      simp only [found] at deleted
      rw [deleted.2]
      split
      · rename_i same
        rw [same, found]
      · rfl
    | some object =>
      simp only [found] at deleted
      rw [deleted.2, Store.get?_erase]
  cases asked with
  | deletePod ns name => exact erased _
  | ofRun asked =>
    cases asked with
    | create ns object =>
      have created := (Rehearsal.create_calm calm.failures ns object).2
      change (Rehearsal.create ns object state).2.store.get? key =
        if key = Store.keyOf ns object then some ((state.store.get? key).getD object)
        else state.store.get? key
      cases found : state.store.get? (Store.keyOf ns object) with
      | none =>
        simp only [found] at created
        rw [created.2, Store.get?_put]
        split
        · rename_i same
          rw [same, found]
          rfl
        · rfl
      | some stored =>
        simp only [found] at created
        rw [created.2]
        split
        · rename_i same
          rw [same, found]
          rfl
        · rfl
    | readSecret ns name =>
      exact congrArg (·.get? key) (Rehearsal.read_calm calm.failures ⟨.secret, ns, name⟩).2.1
    | deleteSecret ns name => exact erased _
    | deletePods ns labels =>
      have deleted : (Rehearsal.deletePods ns labels state).2.store =
          state.store.deleteAll .pod ns labels :=
        (Rehearsal.act_calm calm.failures _ _ _ _ _ _ _).2.1
      change (Rehearsal.deletePods ns labels state).2.store.get? key = _
      rw [deleted]
      exact calm.distinct.get?_eraseIf _ key
    | submitPod pod => exact absurd rfl (single pod)
    | awaitPod token ns name =>
      have watched := Rehearsal.awaitPod_calm calm.failures token ns name
      change (Rehearsal.awaitPod token ns name state).2.store.get? key =
        if key = ⟨.pod, ns, name⟩ then (state.store.get? key).map fun object =>
          .pod (Rehearsal.observed (object.pod?.getD {}) (Rehearsal.nextScript name state).1)
        else state.store.get? key
      cases found : state.store.get? ⟨.pod, ns, name⟩ with
      | none =>
        simp only [found] at watched
        rw [watched.2.1]
        split
        · rename_i same
          rw [same, found]
          rfl
        · rfl
      | some object =>
        simp only [found] at watched
        rw [watched.2.1, Store.get?_put]
        split
        · rename_i same
          rw [same, found]
          rfl
        · rfl
    | pullSpec ns image => exact congrArg (·.get? key) (Rehearsal.store_pullSpec ns image state).2
    | isCancelled token => cases token <;> rfl

/-- Without scripted failures, a call leaves alone what is no object, unless it watches a pod that
is there. -/
theorem bare_handler (calm : state.Calm) {asked : DirectCall} (single : IsSingle asked) :
    (handler asked state).2.bare = match asked with
      | .ofRun (.awaitPod token ns name) =>
        if (state.store.get? ⟨.pod, ns, name⟩).isSome then state.bare.watched token name
        else state.bare
      | _ => state.bare := by
  cases asked with
  | deletePod ns name => exact (Rehearsal.delete_calm calm.failures _).1
  | ofRun asked =>
    cases asked with
    | create ns object => exact (Rehearsal.create_calm calm.failures ns object).1
    | readSecret ns name => exact (Rehearsal.read_calm calm.failures ⟨.secret, ns, name⟩).1
    | deleteSecret ns name => exact (Rehearsal.delete_calm calm.failures _).1
    | deletePods ns labels => exact (Rehearsal.act_calm calm.failures _ _ _ _ _ _ _).2.2
    | submitPod pod => exact absurd rfl (single pod)
    | awaitPod token ns name =>
      have watched := Rehearsal.awaitPod_calm calm.failures token ns name
      change (Rehearsal.awaitPod token ns name state).2.bare = _
      cases found : state.store.get? ⟨.pod, ns, name⟩ with
      | none =>
        simp only [found] at watched
        simpa [found] using watched.1
      | some object =>
        simp only [found] at watched
        simpa [found] using watched.1
    | pullSpec ns image => exact (Rehearsal.act_calm calm.failures _ _ _ _ _ _ _).2.2
    | isCancelled token => cases token <;> rfl

/-- A call keeps the script, and counts the watching of no pod but the one that it watches. -/
theorem script_handler (calm : state.Calm) {asked : DirectCall} (single : IsSingle asked) :
    let after := (handler asked state).2
    after.images = state.images ∧ after.scripts = state.scripts ∧
      after.failures = state.failures ∧
      ∀ name, watched? asked ≠ some name → after.waits.get? name = state.waits.get? name := by
  intro after
  have rest := bare_handler calm single
  have same : after.bare = state.bare → after.images = state.images ∧
      after.scripts = state.scripts ∧ after.failures = state.failures ∧
      ∀ name, watched? asked ≠ some name → after.waits.get? name = state.waits.get? name := by
    intro same
    exact ⟨congrArg (·.images) same, congrArg (·.scripts) same, congrArg (·.failures) same,
      fun name _ => congrArg (·.waits.get? name) same⟩
  cases asked with
  | deletePod ns name => exact same rest
  | ofRun asked =>
    cases asked with
    | awaitPod token ns name =>
      dsimp only at rest
      split at rest
      · refine ⟨congrArg (·.images) rest, congrArg (·.scripts) rest,
          congrArg (·.failures) rest, fun other differ => ?_⟩
        have counted : after.waits = state.waits.insert name
            ((state.waits.get? name).getD 0 + 1) := congrArg (·.waits) rest
        have differ : name ≠ other := fun same => differ (congrArg some same)
        rw [counted, StringMap.get?_insert, if_neg differ]
      · exact same rest
    | _ => exact same rest

/-- A calm rehearsal stays calm. -/
theorem calm_handler (calm : state.Calm) {asked : DirectCall} (single : IsSingle asked) :
    (handler asked state).2.Calm := by
  refine ⟨(script_handler calm single).2.2.1.trans calm.failures, ?_⟩
  cases asked with
  | ofRun asked => exact (Rehearsal.serves_handler asked state calm.distinct).2
  | deletePod ns name =>
    have deleted := (Rehearsal.delete_calm calm.failures ⟨.pod, ns, name⟩).2
    change (Rehearsal.delete ⟨.pod, ns, name⟩ state).2.store.Distinct
    cases found : state.store.get? ⟨.pod, ns, name⟩ with
    | none =>
      simp only [found] at deleted
      rw [deleted.2]
      exact calm.distinct
    | some object =>
      simp only [found] at deleted
      rw [deleted.2]
      exact calm.distinct.eraseIf _

/-! ## Clusters that agree -/

/-- Two rehearsals follow the same script, and are called off at the same time. -/
structure Agree (first second : Rehearsal) : Prop where
  /-- Images are pulled from the same places. -/
  images : first.images = second.images
  /-- Pods end in the same ways. -/
  scripts : first.scripts = second.scripts
  /-- The callers have called both off or none. -/
  caller : first.callerCancelled = second.callerCancelled
  /-- The cleanups are called off both or none. -/
  detached : first.detachedCancelled = second.detachedCancelled

/-- Two rehearsals agree on what a call looks at. -/
structure AgreeOn (asked : DirectCall) (first second : Rehearsal) : Prop extends
    Agree first second where
  /-- The place that the call looks at. -/
  place : ∀ key, place? asked = some key → first.store.get? key = second.store.get? key
  /-- How often the pod that it watches was watched. -/
  waits : ∀ name, watched? asked = some name → first.waits.get? name = second.waits.get? name

section Agreement

variable {first second : Rehearsal} {asked : DirectCall}

/-- A pod's script depends on the script and on how often the pod was watched. -/
theorem nextScript_congr (scripts : first.scripts = second.scripts) {name : String}
    (waits : first.waits.get? name = second.waits.get? name) :
    (Rehearsal.nextScript name first).1 = (Rehearsal.nextScript name second).1 := by
  simp only [Rehearsal.nextScript, scripts, waits]

/-- Where two rehearsals agree on what a call looks at, the call follows the same script. -/
theorem AgreeOn.script (agree : AgreeOn asked first second) :
    script first asked = script second asked := by
  rw [Direct.script, Direct.script]
  cases watched : watched? asked with
  | none => rfl
  | some name => exact nextScript_congr agree.scripts (agree.waits name watched)

/-- Where two rehearsals agree on what a call looks at, they give the same answer. -/
theorem AgreeOn.answer (agree : AgreeOn asked first second) (calm : first.Calm)
    (calmToo : second.Calm) (single : IsSingle asked) :
    (handler asked first).1 = (handler asked second).1 := by
  have deleting : ∀ key, first.store.get? key = second.store.get? key →
      (Rehearsal.delete key first).1 = (Rehearsal.delete key second).1 := by
    intro key same
    have one := (Rehearsal.delete_calm calm.failures key).2
    have other := (Rehearsal.delete_calm calmToo.failures key).2
    rw [← same] at other
    cases found : first.store.get? key <;> simp only [found] at one other <;>
      exact one.1.trans other.1.symm
  have reading : ∀ key, first.store.get? key = second.store.get? key →
      (Rehearsal.read key first).1 = (Rehearsal.read key second).1 := by
    intro key same
    rw [(Rehearsal.read_calm calm.failures key).2.2, (Rehearsal.read_calm calmToo.failures key).2.2,
      same]
  cases asked with
  | deletePod ns name => exact deleting _ (agree.place _ rfl)
  | ofRun asked =>
    cases asked with
    | create ns object =>
      have one := (Rehearsal.create_calm calm.failures ns object).2
      have other := (Rehearsal.create_calm calmToo.failures ns object).2
      rw [← agree.place _ rfl] at other
      change (Rehearsal.create ns object first).1 = (Rehearsal.create ns object second).1
      cases found : first.store.get? (Store.keyOf ns object) <;>
        simp only [found] at one other <;> exact one.1.trans other.1.symm
    | readSecret ns name =>
      exact congrArg (Except.map fun object => object.secret?.getD {})
        (reading _ (agree.place _ rfl))
    | deleteSecret ns name => exact deleting _ (agree.place _ rfl)
    | deletePods ns labels =>
      have answered : ∀ state : Rehearsal, state.failures = [] →
          (Rehearsal.deletePods ns labels state).1 = .ok () :=
        fun state calm => (Rehearsal.act_calm calm _ _ _ _ _ _ _).1
      exact (answered _ calm.failures).trans (answered _ calmToo.failures).symm
    | submitPod pod => exact absurd rfl (single pod)
    | awaitPod token ns name =>
      have one := Rehearsal.awaitPod_calm calm.failures token ns name
      have other := Rehearsal.awaitPod_calm calmToo.failures token ns name
      rw [← agree.place _ rfl] at other
      have scripts := nextScript_congr agree.scripts (agree.waits name rfl)
      change (Rehearsal.awaitPod token ns name first).1 =
        (Rehearsal.awaitPod token ns name second).1
      cases found : first.store.get? ⟨.pod, ns, name⟩ <;> simp only [found] at one other
      · exact one.2.2.trans other.2.2.symm
      · rw [one.2.2, other.2.2, scripts]
    | pullSpec ns image =>
      refine (Rehearsal.act_calm calm.failures _ _ _ _ _ _ _).1.trans (Eq.trans ?_
        (Rehearsal.act_calm calmToo.failures _ _ _ _ _ _ _).1.symm)
      rw [agree.images]
      cases second.images.get? image.name <;> rfl
    | isCancelled token =>
      cases token with
      | caller => exact agree.caller
      | detached => exact agree.detached

/-- Two rehearsals agree as long as they change only in what is stored and written down. -/
theorem Agree.congr (agree : Agree first second) {one other : Rehearsal}
    (same : one.bare = first.bare) (sameToo : other.bare = second.bare) : Agree one other where
  images := (congrArg (·.images) same).trans
    (agree.images.trans (congrArg (·.images) sameToo).symm)
  scripts := (congrArg (·.scripts) same).trans
    (agree.scripts.trans (congrArg (·.scripts) sameToo).symm)
  caller := (congrArg (·.callerCancelled) same).trans
    (agree.caller.trans (congrArg (·.callerCancelled) sameToo).symm)
  detached := (congrArg (·.detachedCancelled) same).trans
    (agree.detached.trans (congrArg (·.detachedCancelled) sameToo).symm)

/-- Where two rehearsals agree on what a call looks at, they agree afterwards wherever they agreed
before. -/
theorem AgreeOn.after (agree : AgreeOn asked first second) (calm : first.Calm)
    (calmToo : second.Calm) (single : IsSingle asked) :
    let one := (handler asked first).2
    let other := (handler asked second).2
    Agree one other ∧
      (∀ key, first.store.get? key = second.store.get? key →
        one.store.get? key = other.store.get? key) ∧
      ∀ name, first.waits.get? name = second.waits.get? name →
        one.waits.get? name = other.waits.get? name := by
  intro one other
  have objects : ∀ key, first.store.get? key = second.store.get? key →
      one.store.get? key = other.store.get? key := by
    intro key same
    rw [cell_handler calm single, cell_handler calmToo single, agree.script, same]
  have rest := bare_handler calm single
  have restToo := bare_handler calmToo single
  have kept : one.bare = first.bare → other.bare = second.bare → Agree one other ∧
      (∀ key, first.store.get? key = second.store.get? key →
        one.store.get? key = other.store.get? key) ∧
      ∀ name, first.waits.get? name = second.waits.get? name →
        one.waits.get? name = other.waits.get? name := by
    intro same sameToo
    refine ⟨agree.congr same sameToo, objects, fun name waited => ?_⟩
    exact (congrArg (·.waits.get? name) same).trans
      (waited.trans (congrArg (·.waits.get? name) sameToo).symm)
  cases asked with
  | deletePod ns name => exact kept rest restToo
  | ofRun asked =>
    cases asked with
    | awaitPod token ns name =>
      dsimp only at rest restToo
      rw [← agree.place _ rfl] at restToo
      split at rest
      · rename_i there
        rw [if_pos there] at restToo
        have scripts : (Rehearsal.nextScript name first.bare).1 =
            (Rehearsal.nextScript name second.bare).1 :=
          nextScript_congr agree.scripts (agree.waits name rfl)
        refine ⟨⟨?_, ?_, ?_, ?_⟩, objects, fun watched waited => ?_⟩
        · exact (congrArg (·.images) rest).trans
            (agree.images.trans (congrArg (·.images) restToo).symm)
        · exact (congrArg (·.scripts) rest).trans
            (agree.scripts.trans (congrArg (·.scripts) restToo).symm)
        · refine (congrArg (·.callerCancelled) rest).trans (Eq.trans ?_
            (congrArg (·.callerCancelled) restToo).symm)
          change (first.callerCancelled || (Rehearsal.nextScript name first.bare).1.cancelsCaller ||
              ((Rehearsal.nextScript name first.bare).1.cancelsWait && token == .caller)) = _
          rw [scripts, agree.caller]
          rfl
        · refine (congrArg (·.detachedCancelled) rest).trans (Eq.trans ?_
            (congrArg (·.detachedCancelled) restToo).symm)
          change (first.detachedCancelled ||
              ((Rehearsal.nextScript name first.bare).1.cancelsWait && token == .detached)) = _
          rw [scripts, agree.detached]
          rfl
        · have counted : ∀ {state after : Rehearsal},
              after.bare = state.bare.watched token name → after.waits.get? watched =
                if name = watched then some ((state.waits.get? name).getD 0 + 1)
                else state.waits.get? watched := by
            intro state after same
            exact (congrArg (·.waits.get? watched) same).trans (StringMap.get?_insert _ _ _ _)
          rw [counted rest, counted restToo, agree.waits name rfl, waited]
      · rename_i absent
        rw [if_neg absent] at restToo
        exact kept rest restToo
    | _ => exact kept rest restToo

end Agreement

end Direct

end StagedTest
