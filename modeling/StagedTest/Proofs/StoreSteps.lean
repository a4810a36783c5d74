import StagedTest.Proofs.RunHistory

/-!
# Calls to a store

What calls do to a cluster that is nothing but a store. Calls may fail at any time and for any
reason, and a call that has failed may still have taken effect. Only two things are certain: what
is created was not there before, and what is read is there. A store is truthful if it says that
an object is already there only where that is so, and calm if nothing but the store itself makes
calls fail. The in-memory store of rehearsals is shown to be such a store.
-/
namespace StagedTest

open Program

namespace Store

/-- Whether there is an object of a kind and a name in a namespace. -/
def Holds (store : Store) (kind : ObjectKind) (ns name : String) : Prop :=
  (store.get? ⟨kind, ns, name⟩).isSome = true

/-- Only pods have changed. -/
def SameButPods (before after : Store) : Prop :=
  ∀ key, key.kind ≠ .pod → after.get? key = before.get? key

/-- What may become of a store when a call is answered in a certain way. -/
def Step (truthful : Prop) : Effect Cluster Store
  | .create ns object, .ok _, before, after =>
    before.get? (keyOf ns object) = none ∧ after = before.put (keyOf ns object) object
  | .create ns object, .error error, before, after =>
    (truthful → error.kind = .alreadyExists → (before.get? (keyOf ns object)).isSome = true) ∧
      (after = before ∨
        before.get? (keyOf ns object) = none ∧ after = before.put (keyOf ns object) object)
  | .readSecret ns name, .ok secret, before, after =>
    after = before ∧
      ∃ object, before.get? ⟨.secret, ns, name⟩ = some object ∧ object.secret?.getD {} = secret
  | .readSecret _ _, .error _, before, after => after = before
  | .deleteSecret ns name, .ok _, before, after => after = before.erase ⟨.secret, ns, name⟩
  | .deleteSecret ns name, .error _, before, after =>
    after = before ∨ after = before.erase ⟨.secret, ns, name⟩
  | .deletePods _ _, _, before, after
  | .submitPod _, _, before, after
  | .awaitPod _ _ _, _, before, after => SameButPods before after
  | .pullSpec _ _, _, before, after
  | .isCancelled _, _, before, after => after = before

/-- What becomes of a store when nothing but the store itself makes calls fail. What becomes of
pods is left open. -/
def CalmStep : Effect Cluster Store
  | .create ns object, answer, before, after =>
    match before.get? (keyOf ns object) with
    | none => answer = .ok () ∧ after = before.put (keyOf ns object) object
    | some _ => (∃ error, answer = .error error ∧ error.kind = .alreadyExists) ∧ after = before
  | .readSecret ns name, answer, before, after =>
    after = before ∧
      match before.get? ⟨.secret, ns, name⟩ with
      | some object => answer = .ok (object.secret?.getD {})
      | none => ∃ error, answer = .error error
  | .deleteSecret ns name, answer, before, after =>
    match before.get? ⟨.secret, ns, name⟩ with
    | some _ => answer = .ok () ∧ after = before.erase ⟨.secret, ns, name⟩
    | none => (∃ error, answer = .error error ∧ error.kind = .notFound) ∧ after = before
  | asked, answer, before, after => Step True asked answer before after

/-- A calm store is truthful. -/
theorem CalmStep.step {asked : ClusterCall} {answer : asked.Answer} {before after : Store}
    (calm : CalmStep asked answer before after) : Step True asked answer before after := by
  cases asked with
  | create ns object =>
    cases found : before.get? (keyOf ns object) with
    | none =>
      simp only [CalmStep, found] at calm
      obtain ⟨rfl, rfl⟩ := calm
      exact ⟨found, rfl⟩
    | some stored =>
      simp only [CalmStep, found] at calm
      obtain ⟨⟨error, rfl, _⟩, rfl⟩ := calm
      exact ⟨fun _ _ => by rw [found]; rfl, .inl rfl⟩
  | readSecret ns name =>
    obtain ⟨rfl, answered⟩ := calm
    cases found : after.get? ⟨.secret, ns, name⟩ with
    | none =>
      simp only [found] at answered
      obtain ⟨error, rfl⟩ := answered
      exact rfl
    | some stored =>
      simp only [found] at answered
      obtain rfl := answered
      exact ⟨rfl, stored, found, rfl⟩
  | deleteSecret ns name =>
    cases found : before.get? ⟨.secret, ns, name⟩ with
    | none =>
      simp only [CalmStep, found] at calm
      obtain ⟨⟨error, rfl, _⟩, rfl⟩ := calm
      exact .inl rfl
    | some stored =>
      simp only [CalmStep, found] at calm
      obtain ⟨rfl, rfl⟩ := calm
      exact rfl
  | _ => exact calm

/-- Putting an object where another one was put replaces it. -/
theorem put_put (store : Store) (key : ObjectKey) (first second : Object) :
    (store.put key first).put key second = store.put key second := by
  simp [put, erase, eraseIf, List.filter_filter]

/-- Putting an object where one was taken away replaces it. -/
theorem put_erase (store : Store) (key : ObjectKey) (object : Object) :
    (store.erase key).put key object = store.put key object := by
  simp [put, erase, eraseIf, List.filter_filter]

/-! ## Filling a store -/

/-- Nothing has changed except that planned objects have come where there was nothing. -/
def Fills (planned : ObjectKey → Option Object) (before after : Store) : Prop :=
  ∀ key, after.get? key = before.get? key ∨
    before.get? key = none ∧ after.get? key = planned key

namespace Fills

variable {planned : ObjectKey → Option Object} {before middle after : Store}

/-- A store without changes is filled. -/
theorem refl (planned : ObjectKey → Option Object) (store : Store) : Fills planned store store :=
  fun _ => .inl rfl

/-- A store can be filled in two steps. -/
theorem trans (early : Fills planned before middle) (late : Fills planned middle after) :
    Fills planned before after := by
  intro key
  rcases early key with kept | ⟨absent, put⟩
  · rcases late key with keptLater | ⟨absent, put⟩
    · exact .inl (keptLater.trans kept)
    · exact .inr ⟨kept ▸ absent, put⟩
  · rcases late key with keptLater | ⟨_, putLater⟩
    · exact .inr ⟨absent, keptLater.trans put⟩
    · exact .inr ⟨absent, putLater⟩

/-- What is stored stays as it is. -/
theorem get?_eq {key : ObjectKey} {object : Object} (fills : Fills planned before after)
    (stored : before.get? key = some object) : after.get? key = some object := by
  rcases fills key with kept | ⟨absent, _⟩
  · exact kept.trans stored
  · rw [stored] at absent
    cases absent

/-- What is there stays there. -/
theorem holds {key : ObjectKey} (fills : Fills planned before after)
    (held : (before.get? key).isSome = true) : (after.get? key).isSome = true := by
  obtain ⟨object, stored⟩ := Option.isSome_iff_exists.1 held
  rw [fills.get?_eq stored]
  rfl

/-- A planned object may be put where there is nothing. -/
theorem put {key : ObjectKey} {object : Object} (fits : planned key = some object)
    (absent : before.get? key = none) : Fills planned before (before.put key object) := by
  intro other
  by_cases same : other = key
  · subst same
    exact .inr ⟨absent, by rw [get?_put, if_pos rfl, fits]⟩
  · exact .inl (by rw [get?_put, if_neg same])

end Fills

/-! ## Calls that provide nothing -/

/-- Calls that provide nothing change only pods. -/
theorem Step.sameButPods {truthful : Prop} {asked : ClusterCall} {answer : asked.Answer}
    {before after : Store} (step : Step truthful asked answer before after)
    (other : asked.isProvisioning = false) : SameButPods before after := by
  cases asked with
  | create ns object =>
    have ofPod : object.kind = .pod := by simpa [ClusterCall.isProvisioning] using other
    have put : SameButPods before (before.put (keyOf ns object) object) := by
      intro key noPod
      have differ : key ≠ keyOf ns object := by
        rintro rfl
        exact noPod ofPod
      rw [get?_put, if_neg differ]
    cases answer with
    | ok created => exact step.2 ▸ put
    | error error =>
      rcases step.2 with same | ⟨_, created⟩
      · exact same ▸ fun _ _ => rfl
      · exact created ▸ put
  | readSecret | deleteSecret => cases other
  | deletePods | submitPod | awaitPod => exact step
  | pullSpec | isCancelled =>
    obtain rfl : after = before := step
    exact fun _ _ => rfl

/-- What is left out of a store has no bearing on places where nothing is left out. -/
theorem get?_eraseIf (store : Store) {test : ObjectKey → Object → Bool} {key : ObjectKey}
    (kept : ∀ object, test key object = false) :
    (store.eraseIf test).get? key = store.get? key := by
  obtain ⟨entries⟩ := store
  change find? key (entries.filter _) = find? key entries
  induction entries with
  | nil => rfl
  | cons entry rest ih =>
    obtain ⟨other, object⟩ := entry
    by_cases same : other = key
    · subst same
      simp [find?, kept]
    · by_cases gone : test other object = true
      · simpa [find?, same, gone] using ih
      · simpa [find?, same, gone] using ih

/-- A history without provisioning changes only pods. -/
theorem sameButPods_of_follows {truthful : Prop} {history : History Cluster} {before after : Store}
    (follows : Follows (Step truthful) before history after)
    (other : ∀ event ∈ history, ClusterCall.isProvisioning event.1 = false) :
    SameButPods before after := by
  refine follows.invariant (fun _ _ => rfl) ?_
  intro event member early late step kept key noPod
  rw [Step.sameButPods step (other event member) key noPod, kept key noPod]

end Store

end StagedTest
