import StagedTest.Proofs.StoreSteps

/-!
# What provisioning does to a store

Provisioning replaces the shared secret and then only ever adds objects: the copies of secrets and
the access of the test, each of them planned beforehand and put only where there is nothing. So
wherever it stops, it leaves a store that lies between the one it began with and the one that is
planned. The main statements say so of every store, with calls that fail at any time, and say
when provisioning goes well.
-/
namespace StagedTest

open Program

namespace Store

/-- The secret of a name. -/
def secretAt (store : Store) (ns name : String) : Option Secret :=
  (store.get? ⟨.secret, ns, name⟩).map fun object => object.secret?.getD {}

/-- There is a secret of a name exactly if there is an object in its place. -/
theorem secretAt_isSome (store : Store) (ns name : String) :
    (store.secretAt ns name).isSome = true ↔ store.Holds .secret ns name := by
  rw [secretAt, Option.isSome_map, Holds]

end Store

namespace Plan

/-- The place of the shared secret. -/
def sharedKey (plan : Plan) : ObjectKey := ⟨.secret, plan.ns, Naming.sharedSecret plan.test⟩

/-- The shared secret as a run creates it. -/
def sharedSecret (plan : Plan) : Object := .secret (.shared plan.ns plan.test)

/-- A store with a fresh shared secret. -/
def renewed (plan : Plan) (store : Store) : Store := store.put plan.sharedKey plan.sharedSecret

/-- The secrets to copy, by the names of their copies, if no two of them would have the same
copy. -/
def references (plan : Plan) : Except RunError (StringMap Credential) :=
  Provision.references ∅ (Provision.credentials plan.config)

/-- The objects that a run creates where they are missing, given the store that it copies secrets
from. -/
def planned (plan : Plan) (store : Store) (key : ObjectKey) : Option Object :=
  if key.ns = plan.ns then
    match key.kind with
    | .pod => none
    | .secret => do
      let references ← plan.references.toOption
      let credential ← references.get? key.name
      let source ← store.secretAt credential.ns credential.name
      return .secret (source.mirrored plan.ns key.name)
    | .serviceAccount =>
      if key.name = plan.test then some (.serviceAccount (Access.serviceAccount plan.ns plan.test))
      else none
    | .role => if key.name = plan.test then some (.role (Access.role plan.ns plan.test)) else none
    | .roleBinding =>
      if key.name = plan.test then some (.roleBinding (Access.roleBinding plan.ns plan.test))
      else none
  else none

/-- The shared environment can be put together, as far as it does not depend on the cluster. -/
def HasEnvironment (plan : Plan) : Prop :=
  (∃ leases, SharedEnvironment.resolveAll plan.parameters
      (plan.config.leases.map (·.variableName)) = .ok leases) ∧
    (plan.config.clusterProfile.isSome = true →
      ∃ profile, SharedEnvironment.ofProfile plan.parameters = .ok profile)

/-- The secret of the cluster profile is there if the test has a cluster profile. -/
def HasProfile (plan : Plan) (store : Store) : Prop :=
  plan.config.clusterProfile.isSome = true →
    store.Holds .secret plan.ns (Naming.profileSecret plan.test)

/-- The secrets to copy are there. -/
def HasSources (plan : Plan) (store : Store) : Prop :=
  ∃ references, plan.references = .ok references ∧
    ∀ entry ∈ references.entries, store.Holds .secret entry.2.ns entry.2.name

/-- Everything is there that provisioning relies on. -/
structure Ready (plan : Plan) (store : Store) : Prop where
  /-- The shared environment can be put together. -/
  environment : plan.HasEnvironment
  /-- The secret of the cluster profile is there. -/
  profile : plan.HasProfile store
  /-- The secrets to copy are there. -/
  sources : plan.HasSources store

/-- The copies of the secrets that steps ask for are there. -/
def HasCopies (plan : Plan) (store : Store) : Prop :=
  ∃ references, plan.references = .ok references ∧
    ∀ entry ∈ references.entries, store.Holds .secret plan.ns entry.1

/-- The access of a test is there. -/
structure HasAccess (plan : Plan) (store : Store) : Prop where
  /-- The identity of the pods. -/
  identity : store.Holds .serviceAccount plan.ns plan.test
  /-- The role of the pods. -/
  role : store.Holds .role plan.ns plan.test
  /-- The grant of the role. -/
  grant : store.Holds .roleBinding plan.ns plan.test

/-- Everything is there that the steps of a test rely on. -/
structure Provided (plan : Plan) (store : Store) : Prop where
  /-- The shared secret is fresh. -/
  shared : store.get? plan.sharedKey = some plan.sharedSecret
  /-- The secret of the cluster profile. -/
  profile : plan.HasProfile store
  /-- The copies of secrets. -/
  copies : plan.HasCopies store
  /-- The access of the test. -/
  access : plan.HasAccess store

/-! ## Renewing the shared secret -/

/-- The shared secret of a renewed store is fresh, and everything else is as before. -/
theorem get?_renewed (plan : Plan) (store : Store) (key : ObjectKey) :
    (plan.renewed store).get? key =
      if key = plan.sharedKey then some plan.sharedSecret else store.get? key :=
  Store.get?_put store plan.sharedKey key plan.sharedSecret

/-- The secret of the cluster profile is not the shared secret. -/
theorem profileKey_ne_sharedKey (plan : Plan) :
    (⟨.secret, plan.ns, Naming.profileSecret plan.test⟩ : ObjectKey) ≠ plan.sharedKey := by
  intro same
  have longer : plan.test ++ "-cluster-profile" = plan.test := congrArg ObjectKey.name same
  have lengths := congrArg String.length longer
  rw [String.length_append] at lengths
  have positive : 0 < "-cluster-profile".length := by decide
  omega

/-- Renewing the shared secret has no bearing on the secret of the cluster profile. -/
theorem hasProfile_renewed_iff (plan : Plan) (store : Store) :
    plan.HasProfile (plan.renewed store) ↔ plan.HasProfile store := by
  rw [HasProfile, HasProfile, Store.Holds, Store.Holds, get?_renewed,
    if_neg plan.profileKey_ne_sharedKey]

/-- A store that is filled after its shared secret was renewed is also filled when the shared
secret is renewed again. -/
theorem fills_renewed {plan : Plan} {planned : ObjectKey → Option Object} {before after : Store}
    (fills : Store.Fills planned (plan.renewed before) after) :
    Store.Fills planned (plan.renewed before) (plan.renewed after) := by
  intro key
  by_cases same : key = plan.sharedKey
  · exact .inl (by rw [get?_renewed, get?_renewed, if_pos same, if_pos same])
  · have rest := fills key
    rw [get?_renewed plan after, if_neg same]
    exact rest

end Plan

namespace Provision

variable {truthful : Prop} {start : Store} {blame : ClientError → RunError}

/-! ## Single calls -/

/-- Reading a secret changes nothing, and gives only what is there. -/
theorem ensures_readSecret (ns name : String) :
    (Attempt.orFail blame (Cluster.readSecret ns name)).Ensures (Store.Step truthful) (· = start)
      (· = start) fun secret _ => start.secretAt ns name = some secret := by
  refine Attempt.ensures_orFail (leads_ask fun before answer after same step => ?_)
  subst same
  cases answer with
  | error error =>
    obtain rfl : after = before := step
    exact ⟨rfl, fun secret found => by cases found⟩
  | ok answer =>
    obtain ⟨rfl, object, stored, rfl⟩ := step
    refine ⟨rfl, fun secret found => ?_⟩
    cases found
    rw [Store.secretAt, stored]
    rfl

/-- Deleting a secret takes it away or changes nothing. -/
theorem ensures_deleteSecret (ns name : String) :
    (Attempt.orFail blame ((Cluster.deleteSecret ns name).bind fun answer =>
      .done (ClientError.tolerate .notFound answer))).Ensures (Store.Step truthful) (· = start)
      (fun after => after = start ∨ after = start.erase ⟨.secret, ns, name⟩)
      fun _ _ => True := by
  refine Attempt.ensures_orFail (Leads.bind (leads_ask fun before answer after same step => ?_)
    fun answer => leads_done fun state reached => ⟨reached, fun _ _ => trivial⟩)
  subst same
  cases answer with
  | error error => exact step
  | ok deleted => exact .inr step

/-- Creating an object puts it where there was nothing, or changes nothing. -/
theorem ensures_create (ns : String) (object : Object) :
    (Attempt.orFail blame (Cluster.create ns object)).Ensures (Store.Step truthful) (· = start)
      (fun after => after = start ∨ after = start.put (Store.keyOf ns object) object)
      fun _ after => after = start.put (Store.keyOf ns object) object := by
  refine Attempt.ensures_orFail (leads_ask fun before answer after same step => ?_)
  subst same
  cases answer with
  | error error =>
    refine ⟨?_, fun created failed => by cases failed⟩
    rcases step.2 with kept | ⟨_, put⟩
    · exact .inl kept
    · exact .inr put
  | ok created => exact ⟨.inr step.2, fun _ _ => step.2⟩

/-- Creating a planned object unless it is there fills the store, and when it goes well and the
store is truthful, the object is there afterwards. -/
theorem ensures_createIfAbsent {planned : ObjectKey → Option Object} {ns : String}
    {object : Object} (fits : planned (Store.keyOf ns object) = some object) :
    (createIfAbsent blame ns object).Ensures (Store.Step truthful) (· = start)
      (Store.Fills planned start)
      fun _ after => truthful → (after.get? (Store.keyOf ns object)).isSome = true := by
  have created : ((Cluster.create ns object).bind fun answer =>
      .done (ClientError.tolerate .alreadyExists answer)).Leads (Store.Step truthful) (· = start)
      fun answer after => Store.Fills planned start after ∧ ∀ value, answer = .ok value →
        truthful → (after.get? (Store.keyOf ns object)).isSome = true := by
    refine Leads.bind (leads_ask fun before answer after same step => ?_)
      fun answer => leads_done fun state reached => reached
    subst same
    cases answer with
    | ok created =>
      obtain ⟨absent, rfl⟩ := step
      refine ⟨.put fits absent, fun _ _ _ => ?_⟩
      rw [Store.get?_put, if_pos rfl]
      rfl
    | error error =>
      obtain ⟨honest, rfl | ⟨absent, rfl⟩⟩ := step
      · -- A refusal is tolerated only if it says that the object is there.
        refine ⟨.refl _ _, fun value tolerated holds => honest holds ?_⟩
        by_cases already : error.kind = .alreadyExists
        · exact already
        · rw [ClientError.tolerate, if_neg already] at tolerated
          cases tolerated
      · refine ⟨.put fits absent, fun _ _ _ => ?_⟩
        rw [Store.get?_put, if_pos rfl]
        rfl
  refine (Attempt.ensures_orFail created).bind (fun _ filled => filled)
    fun _ middle filled there => Attempt.ensures_pure fun after same => ?_
  subst same
  exact ⟨filled, there⟩

/-! ## Parts of provisioning -/

/-- Putting the shared environment together changes nothing, and goes well only where everything
is there that it needs. -/
theorem ensures_assemble (plan : Plan) :
    (SharedEnvironment.assemble plan).Ensures (Store.Step truthful) (· = start) (· = start)
      fun _ _ => plan.HasEnvironment ∧ plan.HasProfile start := by
  have leased : (Attempt.ofExcept (SharedEnvironment.resolveAll plan.parameters
      (plan.config.leases.map (·.variableName)))).Ensures (Store.Step truthful) (· = start)
      (· = start) fun leases _ => SharedEnvironment.resolveAll plan.parameters
        (plan.config.leases.map (·.variableName)) = .ok leases :=
    Attempt.ensures_ofExcept fun state same => ⟨same, fun leases found => found⟩
  refine leased.bind (fun _ same => same) fun leases first same resolved => ?_
  subst same
  cases declared : plan.config.clusterProfile with
  | none =>
    have undeclared : plan.config.clusterProfile.isSome ≠ true := by simp [declared]
    exact Attempt.ensures_pure fun state same =>
      ⟨same, ⟨⟨leases, resolved⟩, fun some => absurd some undeclared⟩,
        fun some => absurd some undeclared⟩
  | some profile =>
    refine (ensures_readSecret plan.ns (Naming.profileSecret plan.test)).bind
      (fun _ same => same) fun secret second same read => ?_
    subst same
    have described : (Attempt.ofExcept (SharedEnvironment.ofProfile plan.parameters)).Ensures
        (Store.Step truthful) (· = second) (· = second) fun values _ =>
          SharedEnvironment.ofProfile plan.parameters = .ok values :=
      Attempt.ensures_ofExcept fun state same => ⟨same, fun values found => found⟩
    refine described.bind (fun _ same => same) fun values third same found =>
      Attempt.ensures_pure fun state kept => ⟨kept.trans same, ?_, fun _ => ?_⟩
    · exact ⟨⟨leases, resolved⟩, fun _ => ⟨values, found⟩⟩
    · rw [← Store.secretAt_isSome, read]
      rfl

/-- Replacing the shared secret has no bearing on anything else, and when it goes well the shared
secret is fresh. -/
theorem ensures_resetSharedSecret (plan : Plan) :
    (resetSharedSecret plan).Ensures (Store.Step truthful) (· = start)
      (fun after => plan.renewed after = plan.renewed start)
      fun _ after => after = plan.renewed start := by
  have erased : ∀ middle : Store, middle = start ∨ middle = start.erase plan.sharedKey →
      plan.renewed middle = plan.renewed start := by
    rintro middle (rfl | rfl)
    · rfl
    · exact Store.put_erase start plan.sharedKey plan.sharedSecret
  refine (ensures_deleteSecret plan.ns (Naming.sharedSecret plan.test)).bind erased
    fun _ middle reached _ => (ensures_create plan.ns plan.sharedSecret).weaken ?_ ?_
  · rintro after (rfl | rfl)
    · exact erased after reached
    · exact (Store.put_put middle plan.sharedKey _ _).trans (erased middle reached)
  · exact fun _ after _ created => created.trans (erased middle reached)

/-- The copies that are made of secrets when all of them are read. -/
def Copies (store : Store) (ns : String) (entries : List (String × Credential))
    (copies : List (String × Secret)) : Prop :=
  (∀ copy ∈ copies, ∃ credential source, (copy.1, credential) ∈ entries ∧
      store.secretAt credential.ns credential.name = some source ∧
      copy.2 = source.mirrored ns copy.1) ∧
    ∀ entry ∈ entries, store.Holds .secret entry.2.ns entry.2.name ∧
      ∃ copy ∈ copies, copy.1 = entry.1

/-- The copy of one more secret. -/
theorem Copies.cons {ns name : String} {credential : Credential} {source : Secret}
    {entries : List (String × Credential)} {copies : List (String × Secret)}
    (read : start.secretAt credential.ns credential.name = some source)
    (made : Copies start ns entries copies) :
    Copies start ns ((name, credential) :: entries)
      ((name, source.mirrored ns name) :: copies) := by
  obtain ⟨origins, held⟩ := made
  constructor
  · intro copy member
    rcases List.mem_cons.1 member with rfl | member
    · exact ⟨credential, source, List.mem_cons_self, read, rfl⟩
    · obtain ⟨origin, secret, listed, stored, same⟩ := origins copy member
      exact ⟨origin, secret, List.mem_cons_of_mem _ listed, stored, same⟩
  · intro entry member
    rcases List.mem_cons.1 member with rfl | member
    · refine ⟨?_, (name, source.mirrored ns name), List.mem_cons_self, rfl⟩
      rw [← Store.secretAt_isSome, read]
      rfl
    · obtain ⟨there, copy, listed, same⟩ := held entry member
      exact ⟨there, copy, List.mem_cons_of_mem _ listed, same⟩

/-- Reading secrets changes nothing, and goes well only where all of them are there. -/
theorem ensures_readAll (ns : String) (entries : List (String × Credential)) :
    (readAll ns entries).Ensures (Store.Step truthful) (· = start) (· = start)
      fun copies _ => Copies start ns entries copies := by
  induction entries with
  | nil => exact Attempt.ensures_pure fun state same => ⟨same, by simp, by simp⟩
  | cons entry rest ih =>
    obtain ⟨name, credential⟩ := entry
    refine (ensures_readSecret credential.ns credential.name).bind (fun _ same => same)
      fun source first same read => ?_
    subst same
    refine ih.bind (fun _ same => same) fun copies second same made => ?_
    exact Attempt.ensures_pure fun state kept => ⟨kept.trans same, made.cons read⟩

/-- Creating planned copies fills the store, and when it goes well and the store is truthful, all
of them are there afterwards. -/
theorem ensures_createAll {planned : ObjectKey → Option Object} (ns : String)
    {copies : List (String × Secret)}
    (fits : ∀ copy ∈ copies, planned (Store.keyOf ns (.secret copy.2)) = some (.secret copy.2)) :
    (createAll ns copies).Ensures (Store.Step truthful) (· = start) (Store.Fills planned start)
      fun _ after => truthful → ∀ copy ∈ copies,
        (after.get? (Store.keyOf ns (.secret copy.2))).isSome = true := by
  induction copies generalizing start with
  | nil =>
    refine Attempt.ensures_pure fun state same => ⟨?_, by simp⟩
    rw [same]
    exact .refl _ _
  | cons copy rest ih =>
    obtain ⟨own, others⟩ := List.forall_mem_cons.1 fits
    refine (ensures_createIfAbsent own).bind (fun _ filled => filled)
      fun _ middle filled created => (ih others).weaken ?_ ?_
    · exact fun _ filledLater => filled.trans filledLater
    · intro _ after filledLater there holds
      exact List.forall_mem_cons.2 ⟨filledLater.holds (created holds), there holds⟩

/-- The copy of a secret that steps ask for is planned. -/
theorem planned_copy {plan : Plan} {store : Store} {references : StringMap Credential}
    {name : String} {credential : Credential} {source : Secret}
    (known : plan.references = .ok references)
    (listed : (name, credential) ∈ references.entries)
    (stored : store.secretAt credential.ns credential.name = some source) :
    plan.planned store (Store.keyOf plan.ns (.secret (source.mirrored plan.ns name))) =
      some (.secret (source.mirrored plan.ns name)) := by
  have key : Store.keyOf plan.ns (.secret (source.mirrored plan.ns name)) =
      ⟨.secret, plan.ns, name⟩ := rfl
  rw [StringMap.mem_entries_iff] at listed
  simp [key, Plan.planned, known, Except.toOption, listed, stored]

/-- Copying secrets changes nothing unless all of them are there, and then it fills the store.
When it goes well and the store is truthful, all copies are there afterwards. -/
theorem ensures_mirrorCredentials (plan : Plan) :
    (mirrorCredentials plan).Ensures (Store.Step truthful) (· = start)
      (fun after => after = start ∨
        plan.HasSources start ∧ Store.Fills (plan.planned start) start after)
      fun _ after => plan.HasSources start ∧ Store.Fills (plan.planned start) start after ∧
        (truthful → plan.HasCopies after) := by
  have referred : (Attempt.ofExcept plan.references).Ensures (Store.Step truthful) (· = start)
      (· = start) fun references _ => plan.references = .ok references :=
    Attempt.ensures_ofExcept fun state same => ⟨same, fun references found => found⟩
  refine referred.bind (fun _ same => .inl same) fun references first same known => ?_
  subst same
  refine (ensures_readAll plan.ns references.entries).bind (fun _ same => .inl same)
    fun copies second same made => ?_
  subst same
  obtain ⟨origins, held⟩ := made
  have sources : plan.HasSources second :=
    ⟨references, known, fun entry member => (held entry member).1⟩
  have fits : ∀ copy ∈ copies, plan.planned second (Store.keyOf plan.ns (.secret copy.2)) =
      some (.secret copy.2) := by
    intro copy member
    obtain ⟨credential, source, listed, stored, same⟩ := origins copy member
    rw [same]
    exact planned_copy known listed stored
  refine (ensures_createAll plan.ns fits).weaken (fun _ filled => .inr ⟨sources, filled⟩)
    fun _ after filled created => ⟨sources, filled, fun holds => ?_⟩
  refine ⟨references, known, fun entry member => ?_⟩
  obtain ⟨_, copy, listed, same⟩ := held entry member
  obtain ⟨credential, source, _, _, mirrored⟩ := origins copy listed
  have there := created holds copy listed
  rw [mirrored] at there
  rw [← same]
  exact there

/-- Creating the access of a test fills the store, and when it goes well and the store is truthful,
all of it is there afterwards. -/
theorem ensures_createAccess (plan : Plan) (store : Store) :
    (createAccess plan).Ensures (Store.Step truthful) (· = start)
      (Store.Fills (plan.planned store) start)
      fun _ after => truthful → plan.HasAccess after := by
  have account : plan.planned store (Store.keyOf plan.ns
      (.serviceAccount (Access.serviceAccount plan.ns plan.test))) =
      some (.serviceAccount (Access.serviceAccount plan.ns plan.test)) := by
    simp [Plan.planned, Store.keyOf, Object.kind, Object.displayName, Object.metadata,
      Access.serviceAccount, Access.metadata, ObjectMetadata.displayName]
  have role : plan.planned store (Store.keyOf plan.ns (.role (Access.role plan.ns plan.test))) =
      some (.role (Access.role plan.ns plan.test)) := by
    simp [Plan.planned, Store.keyOf, Object.kind, Object.displayName, Object.metadata,
      Access.role, Access.metadata, ObjectMetadata.displayName]
  have grant : plan.planned store (Store.keyOf plan.ns
      (.roleBinding (Access.roleBinding plan.ns plan.test))) =
      some (.roleBinding (Access.roleBinding plan.ns plan.test)) := by
    simp [Plan.planned, Store.keyOf, Object.kind, Object.displayName, Object.metadata,
      Access.roleBinding, Access.metadata, ObjectMetadata.displayName]
  refine (ensures_createIfAbsent account).bind (fun _ filled => filled)
    fun _ first filledFirst identified => ?_
  refine (ensures_createIfAbsent role).bind (fun _ filled => filledFirst.trans filled)
    fun _ second filledSecond allowed => ?_
  refine (ensures_createIfAbsent grant).weaken
    (fun _ filled => (filledFirst.trans filledSecond).trans filled)
    fun _ after filled granted holds => ⟨?_, ?_, granted holds⟩
  · exact filled.holds (filledSecond.holds (identified holds))
  · exact filled.holds (allowed holds)

/-! ## All of provisioning -/

/-- Provisioning that goes well has four parts. -/
theorem ends_all {plan : Plan} {history : History Cluster} {shared : List EnvVar}
    (ends : (all plan).run.Ends history (.ok shared)) :
    ∃ assembling resetting copying granting,
      history = assembling ++ (resetting ++ (copying ++ granting)) ∧
      (SharedEnvironment.assemble plan).run.Ends assembling (.ok shared) ∧
      (resetSharedSecret plan).run.Ends resetting (.ok ()) ∧
      (mirrorCredentials plan).run.Ends copying (.ok ()) ∧
      (createAccess plan).run.Ends granting (.ok ()) := by
  obtain ⟨assembling, _, environment, rfl, assembled, rest⟩ := Attempt.ends_bind_ok ends
  obtain ⟨resetting, _, _, rfl, reset, rest⟩ := Attempt.ends_bind_ok rest
  obtain ⟨copying, _, _, rfl, copied, rest⟩ := Attempt.ends_bind_ok rest
  obtain ⟨granting, _, _, rfl, granted, done⟩ := Attempt.ends_bind_ok rest
  obtain ⟨rfl, same⟩ := Attempt.ends_pure_iff.1 done
  obtain rfl := Except.ok.inj same
  exact ⟨assembling, resetting, copying, granting, by simp, assembled, reset, copied, granted⟩

/-- Wherever provisioning stops, the store has at most been filled, apart from the shared secret,
and has been filled only if everything was there that provisioning relies on. When it goes well
and the store is truthful, everything is provided. -/
theorem ensures_all (plan : Plan) :
    (all plan).Ensures (Store.Step truthful) (· = start)
      (fun after => plan.renewed after = plan.renewed start ∨
        plan.Ready (plan.renewed start) ∧
          Store.Fills (plan.planned (plan.renewed start)) (plan.renewed start)
            (plan.renewed after))
      fun _ after => plan.Ready (plan.renewed start) ∧
        Store.Fills (plan.planned (plan.renewed start)) (plan.renewed start) after ∧
        (truthful → plan.Provided after) := by
  -- The shared secret may be missing for a while, so stores are compared as they are with a fresh
  -- one. From the reset on, each part starts where the one before has filled the store.
  refine (ensures_assemble plan).bind (fun _ same => .inl (by rw [same]))
    fun shared first same assembled => ?_
  subst same
  obtain ⟨environment, profile⟩ := assembled
  have ready : plan.HasSources (plan.renewed first) → plan.Ready (plan.renewed first) :=
    fun sources => ⟨environment, (plan.hasProfile_renewed_iff first).2 profile, sources⟩
  have again : plan.renewed (plan.renewed first) = plan.renewed first := Store.put_put _ _ _ _
  refine (ensures_resetSharedSecret plan).bind (fun _ same => .inl same)
    fun _ second _ reset => ?_
  subst reset
  refine (ensures_mirrorCredentials plan).bind ?_ fun _ third _ mirrored => ?_
  · rintro after (rfl | ⟨sources, filled⟩)
    · exact .inl again
    · exact .inr ⟨ready sources, Plan.fills_renewed filled⟩
  obtain ⟨sources, filled, copies⟩ := mirrored
  refine (ensures_createAccess plan (plan.renewed first)).bind ?_ fun _ fourth created access =>
    Attempt.ensures_pure fun after same => ?_
  · exact fun _ created => .inr ⟨ready sources, Plan.fills_renewed (filled.trans created)⟩
  subst same
  have whole := filled.trans created
  refine ⟨.inr ⟨ready sources, Plan.fills_renewed whole⟩, ready sources, whole,
    fun holds => ⟨?_, ?_, ?_, access holds⟩⟩
  · exact whole.get?_eq (by rw [Plan.get?_renewed, if_pos rfl])
  · exact fun declared => whole.holds ((ready sources).profile declared)
  · obtain ⟨references, known, there⟩ := copies holds
    exact ⟨references, known, fun entry member => created.holds (there entry member)⟩

end Provision

end StagedTest
