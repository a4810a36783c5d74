import StagedTest.Proofs.PhaseStates
import StagedTest.Proofs.References

/-!
# Running a test again

A run that is cut short leaves a store behind in which some of what it provides is there and some
is not. Provisioning is safe to repeat: whatever earlier runs of a test have left behind, a run
whose calls do not fail gets past provisioning exactly if it would have done so at the very
beginning, and then everything but pods is stored as it would have been. What carries the proof is
that all runs of a test stay between the store that they begin with and the one that is planned.
-/
namespace StagedTest

open Program

/-! ## Provisioning without failures -/

namespace Provision

variable {blame : ClientError → RunError} {start : Store}

/-- In a calm store reading a secret goes well if the secret is there. -/
theorem succeeds_readSecret {ns name : String} (held : start.Holds .secret ns name) :
    (Attempt.orFail blame (Cluster.readSecret ns name)).Succeeds Store.CalmStep (· = start)
      (· = start) := by
  refine Attempt.succeeds_orFail (leads_ask fun before answer after same step => ?_)
  subst same
  obtain ⟨object, stored⟩ := Option.isSome_iff_exists.1 held
  obtain ⟨rfl, answered⟩ := step
  simp only [stored] at answered
  exact ⟨⟨_, answered⟩, rfl⟩

/-- In a calm store creating an object unless it is there goes well. -/
theorem succeeds_createIfAbsent (ns : String) (object : Object) {required : Store → Prop} :
    (createIfAbsent blame ns object).Succeeds Store.CalmStep required fun _ => True := by
  have created : (Cluster.create ns object).Leads Store.CalmStep required fun answer _ =>
      ∃ value, ClientError.tolerate .alreadyExists answer = .ok value := by
    refine leads_ask fun before answer after _ step => ?_
    cases found : before.get? (Store.keyOf ns object) with
    | none =>
      simp only [Store.CalmStep, found] at step
      exact ⟨some (), by rw [step.1]; rfl⟩
    | some stored =>
      simp only [Store.CalmStep, found] at step
      obtain ⟨⟨error, rfl, already⟩, _⟩ := step
      exact ⟨none, if_pos already⟩
  refine (Attempt.succeeds_orFail ?_).bind fun _ => Attempt.succeeds_pure _
  exact created.bind fun answer => leads_done fun state reached => ⟨reached, trivial⟩

/-- In a calm store creating copies goes well. -/
theorem succeeds_createAll (ns : String) (copies : List (String × Secret))
    {required : Store → Prop} :
    (createAll ns copies).Succeeds Store.CalmStep required fun _ => True := by
  induction copies generalizing required with
  | nil => exact Leads.weaken (Attempt.succeeds_pure ()) fun _ _ good => ⟨good.1, trivial⟩
  | cons copy rest ih => exact (succeeds_createIfAbsent ns _).bind fun _ => ih

/-- In a calm store reading secrets goes well if all of them are there. -/
theorem succeeds_readAll (ns : String) {entries : List (String × Credential)}
    (held : ∀ entry ∈ entries, start.Holds .secret entry.2.ns entry.2.name) :
    (readAll ns entries).Succeeds Store.CalmStep (· = start) (· = start) := by
  induction entries with
  | nil => exact Attempt.succeeds_pure _
  | cons entry rest ih =>
    obtain ⟨own, others⟩ := List.forall_mem_cons.1 held
    exact (succeeds_readSecret own).bind fun _ => (ih others).bind fun _ =>
      Attempt.succeeds_pure _

/-- In a calm store copying secrets goes well if all of them are there. -/
theorem succeeds_mirrorCredentials {plan : Plan} (sources : plan.HasSources start) :
    (mirrorCredentials plan).Succeeds Store.CalmStep (· = start) fun _ => True := by
  obtain ⟨references, known, held⟩ := sources
  change (Attempt.ofExcept plan.references >>= _).Succeeds _ _ _
  rw [known, Attempt.ofExcept, pure_bind]
  exact (succeeds_readAll plan.ns held).bind fun copies => succeeds_createAll plan.ns copies

/-- In a calm store replacing the shared secret goes well. -/
theorem succeeds_resetSharedSecret (plan : Plan) :
    (resetSharedSecret plan).Succeeds Store.CalmStep (· = start) (· = plan.renewed start) := by
  have deleted : (Cluster.deleteSecret plan.ns (Naming.sharedSecret plan.test)).Leads
      Store.CalmStep (· = start) fun answer after =>
        (∃ value, ClientError.tolerate .notFound answer = .ok value) ∧
          after.get? plan.sharedKey = none ∧ plan.renewed after = plan.renewed start := by
    refine leads_ask fun before answer after same step => ?_
    subst same
    cases found : before.get? ⟨.secret, plan.ns, Naming.sharedSecret plan.test⟩ with
    | none =>
      simp only [Store.CalmStep, found] at step
      obtain ⟨⟨error, rfl, absent⟩, rfl⟩ := step
      exact ⟨⟨none, if_pos absent⟩, found, rfl⟩
    | some stored =>
      simp only [Store.CalmStep, found] at step
      obtain ⟨rfl, rfl⟩ := step
      refine ⟨⟨some (), rfl⟩, ?_, Store.put_erase _ _ _⟩
      rw [Plan.sharedKey, Store.get?_erase, if_pos rfl]
  have created : (Cluster.create plan.ns plan.sharedSecret).Leads Store.CalmStep
      (fun state => state.get? plan.sharedKey = none ∧ plan.renewed state = plan.renewed start)
      fun answer after => (∃ value, answer = .ok value) ∧ after = plan.renewed start := by
    refine leads_ask fun before answer after empty step => ?_
    have absent : before.get? (Store.keyOf plan.ns plan.sharedSecret) = none := empty.1
    simp only [Store.CalmStep, absent] at step
    exact ⟨⟨(), step.1⟩, step.2.trans empty.2⟩
  refine (Attempt.succeeds_orFail ?_).bind fun _ => Attempt.succeeds_orFail created
  exact deleted.bind fun answer => leads_done fun state reached => reached

/-- In a calm store putting the shared environment together goes well if everything is there that
it needs. -/
theorem succeeds_assemble {plan : Plan} (environment : plan.HasEnvironment)
    (profile : plan.HasProfile start) :
    (SharedEnvironment.assemble plan).Succeeds Store.CalmStep (· = start) (· = start) := by
  refine (Attempt.succeeds_ofExcept environment.1).bind fun leases => ?_
  cases declared : plan.config.clusterProfile with
  | none => exact Attempt.succeeds_pure _
  | some name =>
    have some : plan.config.clusterProfile.isSome = true := by rw [declared]; rfl
    exact (succeeds_readSecret (profile some)).bind fun _ =>
      (Attempt.succeeds_ofExcept (environment.2 some)).bind fun _ => Attempt.succeeds_pure _

/-- In a calm store provisioning goes well if everything is there that it relies on. -/
theorem succeeds_all {plan : Plan} (ready : plan.Ready (plan.renewed start)) :
    (all plan).Succeeds Store.CalmStep (· = start) fun _ => True := by
  have profile := (plan.hasProfile_renewed_iff start).1 ready.profile
  have access : ∀ {required : Store → Prop},
      (createAccess plan).Succeeds Store.CalmStep required fun _ => True := fun {_} =>
    (succeeds_createIfAbsent _ _).bind fun _ => (succeeds_createIfAbsent _ _).bind fun _ =>
      succeeds_createIfAbsent _ _
  exact (succeeds_assemble ready.environment profile).bind fun _ =>
    (succeeds_resetSharedSecret plan).bind fun _ =>
      (succeeds_mirrorCredentials ready.sources).bind fun _ => access.bind fun _ =>
        Attempt.succeeds_pure _

end Provision

/-! ## Between the first store and the planned one -/

namespace Plan

/-- A store lies between the one that the first run began with and the one that is planned: apart
from pods and the shared secret, nothing has changed except that planned objects have come where
there was nothing, and that only if everything was there that provisioning relies on. -/
def Between (plan : Plan) (initial store : Store) : Prop :=
  ∀ key, key.kind ≠ .pod →
    (plan.renewed store).get? key = (plan.renewed initial).get? key ∨
      plan.Ready (plan.renewed initial) ∧ (plan.renewed initial).get? key = none ∧
        (plan.renewed store).get? key = plan.planned (plan.renewed initial) key

/-- Whether provisioning can go well is decided by which secrets are there. -/
theorem Ready.mono {plan : Plan} {store other : Store} (ready : plan.Ready store)
    (kept : ∀ ns name, store.Holds .secret ns name → other.Holds .secret ns name) :
    plan.Ready other := by
  obtain ⟨references, known, held⟩ := ready.sources
  exact ⟨ready.environment, fun declared => kept _ _ (ready.profile declared),
    references, known, fun entry member => kept _ _ (held entry member)⟩

/-- What is planned is decided by the secrets that are copied. -/
theorem planned_congr {plan : Plan} {store other : Store} (ready : plan.Ready store)
    (same : ∀ ns name, store.Holds .secret ns name →
      other.secretAt ns name = store.secretAt ns name) (key : ObjectKey) :
    plan.planned other key = plan.planned store key := by
  obtain ⟨references, known, held⟩ := ready.sources
  rw [planned, planned]
  split
  · cases key.kind with
    | secret =>
      simp only [known, Except.toOption, Option.bind_eq_bind, Option.bind_some]
      cases listed : references.get? key.name with
      | none => rfl
      | some credential =>
        have member := (StringMap.mem_entries_iff references).2 listed
        simp only [Option.bind_some, same _ _ (held _ member)]
    | _ => rfl
  · rfl

namespace Between

variable {plan : Plan} {initial store later : Store}

/-- What is there stays as it is. -/
theorem get?_eq (between : plan.Between initial store) {key : ObjectKey} (noPod : key.kind ≠ .pod)
    {object : Object} (stored : (plan.renewed initial).get? key = some object) :
    (plan.renewed store).get? key = some object := by
  rcases between key noPod with same | ⟨_, absent, _⟩
  · exact same.trans stored
  · rw [stored] at absent
    cases absent

/-- Secrets that are there stay as they are. -/
theorem secretAt_eq (between : plan.Between initial store) {ns name : String}
    (held : (plan.renewed initial).Holds .secret ns name) :
    (plan.renewed store).secretAt ns name = (plan.renewed initial).secretAt ns name := by
  obtain ⟨object, stored⟩ := Option.isSome_iff_exists.1 held
  have noPod : (⟨.secret, ns, name⟩ : ObjectKey).kind ≠ .pod := nofun
  rw [Store.secretAt, Store.secretAt, stored, between.get?_eq noPod stored]

/-- Provisioning can go well exactly if it could at the beginning. -/
theorem ready_iff (between : plan.Between initial store) :
    plan.Ready (plan.renewed store) ↔ plan.Ready (plan.renewed initial) := by
  constructor
  · intro ready
    by_cases before : plan.Ready (plan.renewed initial)
    · exact before
    · refine ready.mono fun ns name held => ?_
      rcases between ⟨.secret, ns, name⟩ nofun with same | ⟨already, _⟩
      · rw [Store.Holds, ← same]
        exact held
      · exact absurd already before
  · intro ready
    refine ready.mono fun ns name held => ?_
    rw [← Store.secretAt_isSome, between.secretAt_eq held, Store.secretAt_isSome]
    exact held

/-- If provisioning can go well, the same is planned as at the beginning. -/
theorem planned_eq (between : plan.Between initial store)
    (ready : plan.Ready (plan.renewed initial)) (key : ObjectKey) :
    plan.planned (plan.renewed store) key = plan.planned (plan.renewed initial) key :=
  planned_congr ready (fun _ _ held => between.secretAt_eq held) key

/-- At the beginning nothing has changed. -/
theorem refl (plan : Plan) (store : Store) : plan.Between store store := fun _ _ => .inl rfl

/-- What lies between a store and what is planned from there lies between all earlier ones and
what was planned at the beginning. -/
theorem trans (early : plan.Between initial store) (late : plan.Between store later) :
    plan.Between initial later := by
  intro key noPod
  rcases late key noPod with same | ⟨ready, absent, put⟩
  · rw [same]
    exact early key noPod
  · -- An object that came late was missing all along, and was planned all along as it is, because
    -- what it is copied from has not changed since.
    have before := early.ready_iff.1 ready
    refine .inr ⟨before, ?_, put.trans (early.planned_eq before key)⟩
    rcases early key noPod with same | ⟨_, nothing, _⟩
    · exact same ▸ absent
    · exact nothing

end Between

/-! ## Single runs -/

/-- Wherever a run stops and whatever fails in it, the store that it leaves behind lies between the
one that it began with and the one that is planned. -/
theorem between_run {plan : Plan} {progress : Progress} {truthful : Prop}
    {history : History Cluster} {ended : Progress × Except RunError Unit} {start after : Store}
    (ends : (plan.run progress).Ends history ended)
    (follows : Follows (Store.Step truthful) start history after) :
    plan.Between start after := by
  have provisioning : ∀ {early : History Cluster} {provided : Except RunError (List EnvVar)}
      {middle : Store}, (Provision.all plan).run.Ends early provided →
        Follows (Store.Step truthful) start early middle → plan.Between start middle := by
    intro early provided middle prepared led key _
    rcases (Provision.ensures_all plan rfl prepared led).1 with same | ⟨ready, fills⟩
    · exact .inl (by rw [same])
    · rcases fills key with same | filled
      · exact .inl same
      · exact .inr ⟨ready, filled⟩
  obtain ⟨afterwards, result⟩ := ended
  rcases ends_run ends with ⟨error, failed, _⟩ |
    ⟨shared, early, pre, test, post, rfl, prepared, stages⟩
  · exact provisioning failed follows
  · obtain ⟨middle, led, leading⟩ := follows_append_iff.1 follows
    have same := Store.sameButPods_of_follows leading stages.provide_nothing
    intro key noPod
    have kept : (plan.renewed after).get? key = (plan.renewed middle).get? key := by
      rw [get?_renewed, get?_renewed, same key noPod]
    rw [kept]
    exact provisioning prepared led key noPod

/-- Where everything is provided, all that is planned is there. -/
theorem Provided.planned_stored {plan : Plan} {store source : Store}
    (provided : plan.Provided store) {key : ObjectKey} {object : Object}
    (fits : plan.planned source key = some object) : (store.get? key).isSome = true := by
  obtain ⟨kind, ns, name⟩ := key
  obtain ⟨references, known, there⟩ := provided.copies
  rw [planned] at fits
  split at fits
  · rename_i here
    obtain rfl : ns = plan.ns := here
    cases kind with
    | pod => cases fits
    | secret =>
      simp only [known, Except.toOption, Option.bind_eq_bind, Option.bind_some,
        Option.bind_eq_some_iff] at fits
      obtain ⟨credential, listed, _⟩ := fits
      exact there _ ((StringMap.mem_entries_iff references).2 listed)
    | serviceAccount =>
      simp only [Option.ite_none_right_eq_some] at fits
      obtain ⟨rfl, _⟩ := fits
      exact provided.access.identity
    | role =>
      simp only [Option.ite_none_right_eq_some] at fits
      obtain ⟨rfl, _⟩ := fits
      exact provided.access.role
    | roleBinding =>
      simp only [Option.ite_none_right_eq_some] at fits
      obtain ⟨rfl, _⟩ := fits
      exact provided.access.grant
  · cases fits

/-- A run whose calls do not fail gets past provisioning exactly if everything is there that
provisioning relies on, and then everything is stored that was stored before or is planned. -/
theorem calm_run {plan : Plan} {progress after : Progress} {history : History Cluster}
    {result : Except RunError Unit} {start ended : Store}
    (ends : (plan.run progress).Ends history (after, result))
    (follows : Follows Store.CalmStep start history ended) :
    (after.phase .pre ≠ .notStarted ↔ plan.Ready (plan.renewed start)) ∧
      (plan.Ready (plan.renewed start) → ∀ key, key.kind ≠ .pod → ended.get? key =
        ((plan.renewed start).get? key <|> plan.planned (plan.renewed start) key)) := by
  rcases ends_run ends with ⟨error, failed, rfl, rfl⟩ |
    ⟨shared, early, pre, test, post, rfl, prepared, stages⟩
  · have never : ¬plan.Ready (plan.renewed start) := by
      intro ready
      obtain ⟨⟨value, succeeded⟩, _⟩ := Provision.succeeds_all ready rfl failed follows
      cases succeeded
    exact ⟨⟨fun begun => absurd rfl begun, fun ready => absurd ready never⟩,
      fun ready => absurd ready never⟩
  · obtain ⟨middle, led, leading⟩ := follows_append_iff.1 follows
    have steps := led.mono fun _ _ _ _ => Store.CalmStep.step
    obtain ⟨ready, fills, provided⟩ := (Provision.ensures_all plan rfl prepared steps).2 shared rfl
    have same := Store.sameButPods_of_follows (leading.mono fun _ _ _ _ => Store.CalmStep.step)
      stages.provide_nothing
    constructor
    · refine ⟨fun _ => ready, fun _ notStarted => ?_⟩
      rcases (settled_stages rfl stages).begun with ⟨failed, _⟩ | ⟨succeeded, _⟩
      · rw [failed] at notStarted
        cases notStarted
      · rw [succeeded] at notStarted
        cases notStarted
    · intro _ key noPod
      rw [same key noPod]
      rcases fills key with kept | ⟨absent, put⟩
      · cases stored : (plan.renewed start).get? key with
        | some object => exact kept.trans stored
        | none =>
          cases fits : plan.planned (plan.renewed start) key with
          | none => exact kept.trans stored
          | some object =>
            -- A planned object is not missing at the end, because all of them are provided.
            have there := (provided trivial).planned_stored fits
            rw [kept, stored] at there
            cases there
      · rw [put, absent]
        rfl

/-! ## Running again -/

/-- The stores that earlier runs of a test leave behind, when nobody else changes anything. Calls
of these runs may fail at any time and in any way. -/
inductive Leaves (plan : Plan) (initial : Store) : Store → Prop
  /-- There was no earlier run. -/
  | nothing : Leaves plan initial initial
  /-- After earlier runs there was another one. -/
  | run {start after : Store} {progress : Progress} {history : History Cluster}
      {ended : Progress × Except RunError Unit} (earlier : Leaves plan initial start)
      (ends : (plan.run progress).Ends history ended)
      (follows : Follows (Store.Step False) start history after) : Leaves plan initial after

/-- A run whose calls do not fail begins with a store, and ends with a progress and a store. -/
def CalmRun (plan : Plan) (start : Store) (after : Progress) (ended : Store) : Prop :=
  ∃ progress history result, (plan.run progress).Ends history (after, result) ∧
    Follows Store.CalmStep start history ended

/-- What earlier runs leave behind lies between the store that the first of them began with and the
one that is planned. -/
theorem between_of_leaves {plan : Plan} {initial store : Store}
    (earlier : plan.Leaves initial store) : plan.Between initial store := by
  induction earlier with
  | nothing => exact .refl plan initial
  | run _ ends follows ih => exact ih.trans (between_run ends follows)

/-- Whatever earlier runs have left behind, a run whose calls do not fail gets as far as its first
phase exactly if it would have done so at the very beginning, and then everything but pods is
stored as it would have been. -/
theorem retry_safe {plan : Plan} {initial store : Store} (earlier : plan.Leaves initial store)
    {once again : Progress} {reached reachedAgain : Store}
    (first : plan.CalmRun initial once reached)
    (second : plan.CalmRun store again reachedAgain) :
    (again.phase .pre ≠ .notStarted ↔ once.phase .pre ≠ .notStarted) ∧
      (once.phase .pre ≠ .notStarted →
        ∀ key, key.kind ≠ .pod → reachedAgain.get? key = reached.get? key) := by
  have between := between_of_leaves earlier
  obtain ⟨_, _, _, ends, follows⟩ := first
  obtain ⟨_, _, _, endsAgain, followsAgain⟩ := second
  obtain ⟨begun, stored⟩ := calm_run ends follows
  obtain ⟨begunAgain, storedAgain⟩ := calm_run endsAgain followsAgain
  refine ⟨begunAgain.trans (between.ready_iff.trans begun.symm), fun started key noPod => ?_⟩
  have ready := begun.1 started
  rw [stored ready key noPod, storedAgain (between.ready_iff.2 ready) key noPod,
    between.planned_eq ready]
  rcases between key noPod with same | ⟨_, absent, put⟩
  · rw [same]
  · rw [put, absent]
    cases plan.planned (plan.renewed initial) key <;> rfl

/-- A run of the small test that fails at the role leaves copies behind, and running again stores
what would have been stored without it. -/
theorem retry_safe_refused :
    let left := ((run .small .initial).run Rehearsal.handler (.small [.refusing .role])).2.store
    Leaves .small (Rehearsal.small []).store left ∧ left.Holds .secret "ci" "vault-token" ∧
      ∀ key, key.kind ≠ .pod →
        ((run .small .initial).run Rehearsal.handler { store := left }).2.store.get? key =
          ((run .small .initial).run Rehearsal.handler (.small [])).2.store.get? key := by
  intro left
  have earlier : Leaves .small (Rehearsal.small []).store left :=
    .run .nothing
      (Program.ends_run Rehearsal.handler (run .small .initial) (.small [.refusing .role]))
      (Rehearsal.follows_step False (run .small .initial) (.small [.refusing .role]) False.elim)
  have calm : ∀ state : Rehearsal, state.failures = [] → CalmRun .small state.store
      ((run .small .initial).run Rehearsal.handler state).1.1
      ((run .small .initial).run Rehearsal.handler state).2.store := fun state quiet =>
    ⟨_, _, _, Program.ends_run Rehearsal.handler (run .small .initial) state,
      Rehearsal.follows_calmStep (run .small .initial) state quiet⟩
  have begun : ((run .small .initial).run Rehearsal.handler (.small [])).1.1.phase .pre =
      .succeeded := rfl
  refine ⟨earlier, rfl, (retry_safe earlier (calm (.small []) rfl)
    (calm { store := left } rfl)).2 ?_⟩
  rw [begun]
  decide

end Plan

end StagedTest
