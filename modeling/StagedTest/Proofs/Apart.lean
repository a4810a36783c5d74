import StagedTest.Proofs.CalmCalls
import StagedTest.Proofs.Footprint

/-!
# Tests that stay apart

Which places of a cluster a run may change (`Plan.Touches`), which secrets it writes and reads, and
when the tests of several runs get along with each other (`Apart`). Two such runs meet only in the
copies of secrets that both of them make, and these are the same for both. Everything else that one
of them changes is neither changed nor looked at by the other.
-/
namespace StagedTest

/-- An object carries the labels of a test exactly if it names the test. -/
theorem ObjectMetadata.carries_labels {metadata : ObjectMetadata} {test : String} :
    metadata.carries (Access.labels test) = true ↔
      metadata.labels.bind (·.get? Label.test) = some test := by
  have listed : (Access.labels test).entries = [(Label.test, test)] := rfl
  simp [ObjectMetadata.carries, listed]

namespace Plan

/-- The places whose objects a run may change, given what was stored at its beginning. -/
inductive Touches (plan : Plan) (start : Store) (key : ObjectKey) : Prop
  /-- The run may put something there. -/
  | writes (writes : plan.Writes key)
  /-- A pod with the label of the test is left over there. -/
  | leftOver {object : Object} (stored : start.get? key = some object)
      (marked : Store.isPodWith plan.ns (Access.labels plan.test) key object = true)

/-- The places of the secrets that a run writes. -/
def secretKeys (plan : Plan) : List ObjectKey :=
  plan.sharedKey :: (Provision.credentials plan.config).map fun credential =>
    ⟨.secret, plan.ns, credential.mirrorName⟩

/-- The places of the secrets that a run reads. -/
def sourceKeys (plan : Plan) : List ObjectKey :=
  ⟨.secret, plan.ns, Naming.profileSecret plan.test⟩ ::
    (Provision.credentials plan.config).map fun credential =>
      ⟨.secret, credential.ns, credential.name⟩

/-- An object is the copy that a run makes at a place of what was stored at its beginning. -/
def IsCopy (plan : Plan) (start : Store) (key : ObjectKey) (object : Object) : Prop :=
  ∃ credential ∈ Provision.credentials plan.config, ∃ secret,
    key = ⟨.secret, plan.ns, credential.mirrorName⟩ ∧
      start.secretAt credential.ns credential.name = some secret ∧
      object = .secret (secret.mirrored plan.ns credential.mirrorName)

/-- A secret that steps ask for is read. -/
theorem mem_sourceKeys {plan : Plan} {credential : Credential}
    (asked : credential ∈ Provision.credentials plan.config) :
    ⟨.secret, credential.ns, credential.name⟩ ∈ plan.sourceKeys :=
  List.mem_cons_of_mem _ (List.mem_map.2 ⟨credential, asked, rfl⟩)

/-- What a run reads are secrets. -/
theorem kind_of_mem_sourceKeys {plan : Plan} {key : ObjectKey} (reads : key ∈ plan.sourceKeys) :
    key.kind = .secret := by
  rcases List.mem_cons.1 reads with rfl | member
  · rfl
  · obtain ⟨_, _, rfl⟩ := List.mem_map.1 member
    rfl

/-- The secrets that a run writes are the shared secret and the copies. -/
theorem Writes.mem_secretKeys {plan : Plan} {key : ObjectKey} (writes : plan.Writes key)
    (ofSecret : key.kind = .secret) : key ∈ plan.secretKeys := by
  cases writes with
  | shared => exact List.mem_cons_self
  | copy asked => exact List.mem_cons_of_mem _ (List.mem_map.2 ⟨_, asked, rfl⟩)
  | identity | role | grant | pod => cases ofSecret

/-- Apart from pods a run touches only what it writes. -/
theorem Touches.of_kind {plan : Plan} {start : Store} {key : ObjectKey}
    (touches : plan.Touches start key) (noPod : key.kind ≠ .pod) : plan.Writes key := by
  cases touches with
  | writes writes => exact writes
  | leftOver stored marked =>
    simp only [Store.isPodWith, Bool.and_eq_true, beq_iff_eq] at marked
    exact absurd marked.1.1 noPod

end Plan

/-! ## Tests that get along -/

/-- Tests get along with each other when they run against the same cluster. -/
structure Apart {ι : Type} (plans : ι → Plan) (start : Store) : Prop where
  /-- They have different names. -/
  tests : ∀ one other, one ≠ other → (plans one).test ≠ (plans other).test
  /-- Their pods have different names. -/
  pods : ∀ one other, one ≠ other →
    ∀ step ∈ (plans one).config.steps, ∀ same ∈ (plans other).config.steps,
      Naming.pod (plans one).test step.name ≠ Naming.pod (plans other).test same.name
  /-- None writes the shared secret of another one, or a secret that another one reads. -/
  secrets : ∀ one other, one ≠ other → ∀ key ∈ (plans one).secretKeys,
    key ≠ (plans other).sharedKey ∧ key ∉ (plans other).sourceKeys
  /-- What two of them copy to the same place they copy from the same place. -/
  copies : ∀ one other, one ≠ other → (plans one).ns = (plans other).ns →
    ∀ credential ∈ Provision.credentials (plans one).config,
      ∀ same ∈ Provision.credentials (plans other).config,
        credential.mirrorName = same.mirrorName →
          credential.ns = same.ns ∧ credential.name = same.name
  /-- No pod that is left over in the place of a pod of one of them has the label of another one. -/
  leftOvers : ∀ one other, one ≠ other → ∀ step ∈ (plans one).config.steps, ∀ object,
    start.get? ⟨.pod, (plans one).ns, Naming.pod (plans one).test step.name⟩ = some object →
      object.metadata.carries (Access.labels (plans other).test) = false

namespace Apart

variable {ι : Type} {plans : ι → Plan} {start : Store} {one other : ι} {key : ObjectKey}

/-- What one run touches is no shared secret of another one, and not read by it. -/
theorem not_reads (apart : Apart plans start) (differ : one ≠ other)
    (touches : (plans one).Touches start key) :
    key ≠ (plans other).sharedKey ∧ key ∉ (plans other).sourceKeys := by
  by_cases ofSecret : key.kind = .secret
  · have writes := touches.of_kind (by rw [ofSecret]; nofun)
    exact apart.secrets one other differ key (writes.mem_secretKeys ofSecret)
  · refine ⟨?_, fun reads => ofSecret (Plan.kind_of_mem_sourceKeys reads)⟩
    rintro rfl
    exact ofSecret rfl

/-- No run touches the place of a pod of another one. -/
theorem not_touches_pod (apart : Apart plans start) (differ : one ≠ other) {step : Step}
    (ofTest : step ∈ (plans one).config.steps) :
    ¬(plans other).Touches start
      ⟨.pod, (plans one).ns, Naming.pod (plans one).test step.name⟩ := by
  intro touches
  cases touches with
  | writes writes =>
    generalize same :
      (⟨.pod, (plans one).ns, Naming.pod (plans one).test step.name⟩ : ObjectKey) = key at writes
    cases writes with
    | pod ofOther =>
      exact apart.pods one other differ step ofTest _ ofOther (congrArg (·.name) same)
    | shared | copy | identity | role | grant => cases congrArg (·.kind) same
  | leftOver stored marked =>
    simp only [Store.isPodWith, Bool.and_eq_true] at marked
    rw [apart.leftOvers one other differ step ofTest _ stored] at marked
    cases marked.2

/-- Two runs touch the same place only where both make the same copy. -/
theorem meet (apart : Apart plans start) (differ : one ≠ other)
    (first : (plans one).Touches start key) (second : (plans other).Touches start key) :
    ∃ credential ∈ Provision.credentials (plans one).config,
      ∃ same ∈ Provision.credentials (plans other).config,
        key = ⟨.secret, (plans one).ns, credential.mirrorName⟩ ∧
          key = ⟨.secret, (plans other).ns, same.mirrorName⟩ := by
  have notShared := (apart.not_reads differ first).1
  have notSharedToo := (apart.not_reads differ.symm second).1
  have tests := apart.tests one other differ
  by_cases ofPod : key.kind = .pod
  · -- Pods of steps are touched by one run only, and no pod has two labels.
    exfalso
    cases first with
    | writes writes =>
      cases writes with
      | pod ofTest => exact apart.not_touches_pod differ ofTest second
      | shared | copy | identity | role | grant => cases ofPod
    | leftOver stored marked =>
      cases second with
      | writes writes =>
        cases writes with
        | pod ofTest => exact apart.not_touches_pod differ.symm ofTest (.leftOver stored marked)
        | shared | copy | identity | role | grant => cases ofPod
      | leftOver storedToo markedToo =>
        obtain rfl := Option.some.inj (stored.symm.trans storedToo)
        simp only [Store.isPodWith, Bool.and_eq_true] at marked markedToo
        have named := ObjectMetadata.carries_labels.1 marked.2
        rw [ObjectMetadata.carries_labels.1 markedToo.2] at named
        exact tests (Option.some.inj named).symm
  · have writes := second.of_kind ofPod
    cases first.of_kind ofPod with
    | shared => exact absurd rfl notSharedToo
    | copy asked =>
      generalize same : (⟨.secret, (plans one).ns, _⟩ : ObjectKey) = key at writes notShared
      cases writes with
      | shared => exact absurd rfl notShared
      | copy askedToo => exact ⟨_, asked, _, askedToo, same.symm, rfl⟩
      | identity | role | grant | pod => cases congrArg (·.kind) same
    | identity =>
      generalize same : (⟨.serviceAccount, (plans one).ns, (plans one).test⟩ : ObjectKey) = key
        at writes
      cases writes with
      | identity => exact absurd (congrArg (·.name) same) tests
      | shared | copy | role | grant | pod => cases congrArg (·.kind) same
    | role =>
      generalize same : (⟨.role, (plans one).ns, (plans one).test⟩ : ObjectKey) = key at writes
      cases writes with
      | role => exact absurd (congrArg (·.name) same) tests
      | shared | copy | identity | grant | pod => cases congrArg (·.kind) same
    | grant =>
      generalize same : (⟨.roleBinding, (plans one).ns, (plans one).test⟩ : ObjectKey) = key
        at writes
      cases writes with
      | grant => exact absurd (congrArg (·.name) same) tests
      | shared | copy | identity | role | pod => cases congrArg (·.kind) same
    | pod => exact absurd rfl ofPod

/-- What two runs copy to the same place is the same. -/
theorem copy_unique (apart : Apart plans start) (differ : one ≠ other) {object same : Object}
    (first : (plans one).IsCopy start key object) (second : (plans other).IsCopy start key same) :
    object = same := by
  obtain ⟨credential, asked, secret, rfl, stored, rfl⟩ := first
  obtain ⟨credentialToo, askedToo, secretToo, place, storedToo, rfl⟩ := second
  obtain ⟨_, sameNs, sameName⟩ := ObjectKey.mk.inj place
  obtain ⟨fromNs, fromName⟩ :=
    apart.copies one other differ sameNs credential asked credentialToo askedToo sameName
  rw [fromNs, fromName, storedToo] at stored
  rw [sameNs, sameName, Option.some.inj stored]

/-- What two runs copy to the same place they copy from a place that no run touches. -/
theorem source_untouched (apart : Apart plans start) (differ : one ≠ other)
    {credential : Credential} (asked : credential ∈ Provision.credentials (plans one).config)
    (second : (plans other).Touches start ⟨.secret, (plans one).ns, credential.mirrorName⟩)
    (run : ι) : ¬(plans run).Touches start ⟨.secret, credential.ns, credential.name⟩ := by
  intro touches
  by_cases own : run = one
  · subst own
    obtain ⟨_, _, same, askedToo, _, place⟩ := apart.meet differ (.writes (.copy asked)) second
    obtain ⟨_, sameNs, sameName⟩ := ObjectKey.mk.inj place
    obtain ⟨fromNs, fromName⟩ :=
      apart.copies run other differ sameNs credential asked same askedToo sameName
    rw [fromNs, fromName] at touches
    exact (apart.not_reads differ touches).2 (Plan.mem_sourceKeys askedToo)
  · exact (apart.not_reads own touches).2 (Plan.mem_sourceKeys asked)

end Apart

/-! ## What the calls of a run look at and change -/

namespace Direct

variable {plan : Plan} {given : String → String → Secret → Prop} {asked : DirectCall}
  {key : ObjectKey} {script : PodScript} {old : Option Object}

/-- The calls of a run are made one by one. -/
theorem Makes.isSingle (makes : Makes plan given asked) : IsSingle asked := by
  rintro pod rfl
  cases makes with
  | ofRun makes direct => exact direct pod rfl

/-- A run watches only the pods of its steps. -/
theorem Makes.watched (makes : Makes plan given asked) {name : String}
    (watched : watched? asked = some name) :
    ∃ step ∈ plan.config.steps, name = Naming.pod plan.test step.name := by
  cases makes with
  | createPod | deletePod => cases watched
  | ofRun makes direct =>
    cases makes with
    | watch token ofTest => exact ⟨_, ofTest, (Option.some.inj watched).symm⟩
    | profile | discard | renew | source | copy | identity | role | grant | image | submit | look
    | cleanUp => cases watched

/-- A call looks at something that the run reads or writes, and writes to the place of a secret by
replacing the shared secret or by creating a copy. -/
theorem Makes.place (makes : Makes plan given asked) (place : place? asked = some key) :
    (key ∈ plan.sourceKeys ∧ ∃ ns name, asked = .ofRun (.readSecret ns name)) ∨
      plan.Writes key ∧ (key.kind = .secret → key = plan.sharedKey ∨
        ∃ credential ∈ Provision.credentials plan.config, ∃ secret,
          given credential.ns credential.name secret ∧
            key = ⟨.secret, plan.ns, credential.mirrorName⟩ ∧
            asked = .ofRun
              (.create plan.ns (.secret (secret.mirrored plan.ns credential.mirrorName)))) := by
  cases makes with
  | @createPod workload ofPlan ofTest =>
    subst ofPlan
    obtain rfl := Option.some.inj place
    exact .inr ⟨.pod ofTest, nofun⟩
  | deletePod ofTest =>
    obtain rfl := Option.some.inj place
    exact .inr ⟨.pod ofTest, nofun⟩
  | ofRun makes direct =>
    cases makes with
    | profile =>
      obtain rfl := Option.some.inj place
      exact .inl ⟨List.mem_cons_self, _, _, rfl⟩
    | source asked =>
      obtain rfl := Option.some.inj place
      exact .inl ⟨Plan.mem_sourceKeys asked, _, _, rfl⟩
    | discard | renew =>
      obtain rfl := Option.some.inj place
      exact .inr ⟨.shared, fun _ => .inl rfl⟩
    | copy asked stored =>
      obtain rfl := Option.some.inj place
      exact .inr ⟨.copy asked, fun _ => .inr ⟨_, asked, _, stored, rfl, rfl⟩⟩
    | identity =>
      obtain rfl := Option.some.inj place
      exact .inr ⟨.identity, nofun⟩
    | role =>
      obtain rfl := Option.some.inj place
      exact .inr ⟨.role, nofun⟩
    | grant =>
      obtain rfl := Option.some.inj place
      exact .inr ⟨.grant, nofun⟩
    | watch token ofTest =>
      obtain rfl := Option.some.inj place
      exact .inr ⟨.pod ofTest, nofun⟩
    | submit => exact absurd rfl (direct _)
    | image | look | cleanUp => cases place

/-- A run deletes several pods at once only by the label of its test. -/
theorem Makes.deletes {ns : String} {labels : StringMap String}
    (makes : Makes plan given (.ofRun (.deletePods ns labels))) :
    ns = plan.ns ∧ labels = Access.labels plan.test := by
  cases makes with
  | ofRun makes direct =>
    cases makes with
    | cleanUp => exact ⟨rfl, rfl⟩

/-- What a call does not look at stays as it is, apart from pods that are cleaned up. -/
theorem Makes.cell_of_place (makes : Makes plan given asked) (elsewhere : place? asked ≠ some key)
    (unmarked : ∀ object, old = some object →
      Store.isPodWith plan.ns (Access.labels plan.test) key object = false) :
    cell script key old asked = old := by
  cases asked with
  | deletePod ns name => exact if_neg fun same => elsewhere (congrArg some same.symm)
  | ofRun asked =>
    cases asked with
    | create | deleteSecret | awaitPod =>
      exact if_neg fun same => elsewhere (congrArg some same.symm)
    | deletePods ns labels =>
      obtain ⟨rfl, rfl⟩ := makes.deletes
      cases old with
      | none => rfl
      | some object => simp [cell, unmarked object rfl]
    | readSecret | submitPod | pullSpec | isCancelled => rfl

/-- A call changes only what the run may write, and pods with the label of its test. -/
theorem Makes.cell_eq (makes : Makes plan given asked) (unwritten : ¬plan.Writes key)
    (unmarked : ∀ object, old = some object →
      Store.isPodWith plan.ns (Access.labels plan.test) key object = false) :
    cell script key old asked = old := by
  by_cases place : place? asked = some key
  · rcases makes.place place with ⟨_, ns, name, rfl⟩ | ⟨writes, _⟩
    · rfl
    · exact absurd writes unwritten
  · exact makes.cell_of_place place unmarked

/-- A call creates what its run may write, and pods only with the label of the run's test. -/
theorem Makes.creates {ns : String} {object : Object}
    (makes : Makes plan given (.ofRun (.create ns object))) :
    plan.Writes (Store.keyOf ns object) ∧
      (object.kind = .pod → object.metadata.carries (Access.labels plan.test) = true) := by
  cases makes with
  | @createPod workload ofPlan ofTest =>
    subst ofPlan
    exact ⟨.pod ofTest, fun _ => workload.ofTest.labelled⟩
  | ofRun makes direct =>
    cases makes with
    | renew => exact ⟨.shared, nofun⟩
    | copy asked stored => exact ⟨.copy asked, nofun⟩
    | identity => exact ⟨.identity, nofun⟩
    | role => exact ⟨.role, nofun⟩
    | grant => exact ⟨.grant, nofun⟩

/-- A pod with the label of a test after a call had it before, or the call is of a run of that
test, which may write in the pod's place. -/
theorem Makes.marks (makes : Makes plan given asked) {ns test : String} {object : Object}
    (after : cell script key old asked = some object)
    (marked : Store.isPodWith ns (Access.labels test) key object = true) :
    (∃ before, old = some before ∧
        Store.isPodWith ns (Access.labels test) key before = true) ∨
      plan.Writes key ∧ test = plan.test := by
  have kept : old = some object → ∃ before, old = some before ∧
      Store.isPodWith ns (Access.labels test) key before = true :=
    fun before => ⟨object, before, marked⟩
  cases asked with
  | deletePod podNs name =>
    rw [cell] at after
    split at after
    · cases after
    · exact .inl (kept after)
  | ofRun asked =>
    cases asked with
    | create createdNs created =>
      rw [cell] at after
      split at after
      · rename_i same
        subst same
        cases old with
        | some before => exact .inl (kept after)
        | none =>
          obtain rfl : created = object := Option.some.inj after
          obtain ⟨writes, labelled⟩ := makes.creates
          simp only [Store.isPodWith, Bool.and_eq_true, beq_iff_eq] at marked
          have named := ObjectMetadata.carries_labels.1 (labelled marked.1.1)
          rw [ObjectMetadata.carries_labels.1 marked.2] at named
          exact .inr ⟨writes, Option.some.inj named⟩
      · exact .inl (kept after)
    | deleteSecret secretNs name =>
      rw [cell] at after
      split at after
      · cases after
      · exact .inl (kept after)
    | deletePods podsNs labels => exact .inl (kept (Option.filter_eq_some_iff.1 after).1)
    | awaitPod token podNs name =>
      rw [cell] at after
      split at after
      · obtain ⟨before, there, rfl⟩ := Option.map_eq_some_iff.1 after
        refine .inl ⟨before, there, ?_⟩
        -- Only a pod has labels when it is watched, and it keeps them.
        simp only [Store.isPodWith, Bool.and_eq_true, ObjectMetadata.carries_labels] at marked ⊢
        refine ⟨marked.1, ?_⟩
        cases before with
        | pod pod => exact marked.2
        | secret | serviceAccount | role | roleBinding => cases marked.2
      · exact .inl (kept after)
    | readSecret | submitPod | pullSpec | isCancelled => exact .inl (kept after)

end Direct

/-! ## What runs do where they meet -/

/-- What is known of a secret that a run reads: where no run touches it, it is the secret that was
stored at the beginning. -/
def Known {ι : Type} (plans : ι → Plan) (start : Store) (ns name : String) (secret : Secret) :
    Prop :=
  (∀ run, ¬(plans run).Touches start ⟨.secret, ns, name⟩) →
    start.secretAt ns name = some secret

namespace Apart

open Direct

variable {ι : Type} {plans : ι → Plan} {start : Store} {run other : ι} {key : ObjectKey}
  {asked : DirectCall}

/-- A run looks at a place that another run touches only to create its copy there. -/
theorem creates_copy (apart : Apart plans start) (differ : run ≠ other)
    (second : (plans other).Touches start key)
    (makes : Makes (plans run) (Known plans start) asked) (place : place? asked = some key) :
    ∃ object, (plans run).IsCopy start key object ∧
      asked = .ofRun (.create (plans run).ns object) := by
  obtain ⟨notShared, unread⟩ := apart.not_reads differ.symm second
  rcases makes.place place with ⟨reads, _⟩ | ⟨writes, cases⟩
  · exact absurd reads unread
  · obtain ⟨_, _, _, _, kind, _⟩ := apart.meet differ (.writes writes) second
    rcases cases (congrArg (·.kind) kind) with shared | ⟨credential, asked, secret, known, rfl, rfl⟩
    · exact absurd shared notShared
    · exact ⟨_, ⟨credential, asked, secret, rfl,
        known (apart.source_untouched differ asked second), rfl⟩, rfl⟩

/-- Where two runs meet, a call does nothing, or it creates the copy of its run unless there is
one. -/
theorem cell_meeting (apart : Apart plans start) (differ : run ≠ other)
    (first : (plans run).Touches start key) (second : (plans other).Touches start key)
    (makes : Makes (plans run) (Known plans start) asked) :
    (∀ script old, cell script key old asked = old) ∨
      ∃ object, (plans run).IsCopy start key object ∧
        ∀ script old, cell script key old asked = some (old.getD object) := by
  by_cases place : place? asked = some key
  · obtain ⟨object, copy, rfl⟩ := apart.creates_copy differ second makes place
    exact .inr ⟨object, copy, fun script old => if_pos (Option.some.inj place).symm⟩
  · obtain ⟨_, _, _, _, kind, _⟩ := apart.meet differ first second
    refine .inl fun script old => makes.cell_of_place place fun object _ => ?_
    rw [kind]
    rfl

end Apart

end StagedTest
