import StagedTest.Proofs.Mirroring
import StagedTest.Proofs.Needs
import StagedTest.Proofs.References

/-!
# Where a run stops before its first step

The needs of a run are listed in the order in which they are met: the shared environment, a fresh
shared secret, the copies of the secrets that steps ask for, and the access of the test. The main
statement is that the first need that is not met ends the run with its own failure, whatever the
cluster answers, and that the phases run only after all needs are met.
-/
namespace StagedTest

open Program Provision Credential

/-! ## Secrets to copy -/

namespace Provision

namespace Donor

/-- The secret has to be read. -/
def readNeed (donor : Donor) : Need :=
  .read donor.credential.ns donor.credential.name donor.source
    (.readCredential donor.credential.ns donor.credential.name)

/-- The copy has to be there. -/
def copyNeed (ns : String) (donor : Donor) : Need :=
  .create ns (.secret (donor.mirror ns)) ClientError.SaysTaken
    (.createCredential donor.credential.mirrorName)

end Donor

/-- Secrets that were read had to be. -/
theorem allMet_reading (donors : List Donor) :
    Need.AllMet (donors.map (·.readNeed)) (donors.map (·.reading)) := by
  induction donors with
  | nil => exact .nil
  | cons donor rest ih =>
    have now : donor.readNeed.Met [donor.reading] := .read
    exact .cons now ih

/-- An answer after which a copy is there does no harm to its need. -/
theorem met_copying {ns : String} {donor : Donor} {answer : Except ClientError Unit}
    (accepted : Accepted answer) : (donor.copyNeed ns).Met [donor.copying ns answer] :=
  .create fun cause failed => cause.kind_eq_alreadyExists_iff.1 (accepted cause failed)

/-- Copies that are there had to be. -/
theorem allMet_copying {ns : String} {donors : List Donor}
    {answers : List (Except ClientError Unit)} (fits : answers.length = donors.length)
    (accepted : ∀ answer ∈ answers, Accepted answer) :
    Need.AllMet (donors.map (·.copyNeed ns)) (donors.zipWith (Donor.copying ns) answers) := by
  induction donors generalizing answers with
  | nil => exact .nil
  | cons donor rest ih =>
    cases answers with
    | nil => cases fits
    | cons answer others =>
      obtain ⟨own, accepted⟩ := List.forall_mem_cons.1 accepted
      have now : (donor.copyNeed ns).Met [donor.copying ns answer] := met_copying own
      exact .cons now (ih (Nat.succ.inj fits) accepted)

/-- What has to be done for secrets to be copied. -/
def copyNeeds (ns : String) (donors : List Donor) : List Need :=
  donors.map (·.readNeed) ++ donors.map (·.copyNeed ns)

/-- Secrets are read and copied as that has to be done. -/
theorem Mirroring.outcome {ns : String} {asked : List Credential} {history : History Cluster}
    {result : Except RunError Unit} (mirroring : Mirroring ns asked history result) :
    ∃ donors : List Donor, donors.map (·.credential) = asked ∧
      Need.Outcome (copyNeeds ns donors) history result := by
  cases mirroring with
  | @unread read next rest error order =>
    -- Whatever the secrets after the one that cannot be read would have been found to be.
    refine ⟨read ++ (next :: rest).map (⟨·, default⟩), ?_, .unmet ?_⟩
    · simp [order, Function.comp_def]
    · have failed : Need.CutOff (((next :: rest).map (⟨·, default⟩ : Credential → Donor)).map
          (·.readNeed)) [⟨ClusterCall.readSecret next.ns next.name, .error error⟩]
          (.readCredential next.ns next.name error) := .at_first .read _
      rw [copyNeeds, List.map_append]
      exact (failed.after (allMet_reading read)).append _
  | @uncopied made rest next answers error order fits accepted refused =>
    refine ⟨made ++ next :: rest, order.symm, .unmet ?_⟩
    have harm : ¬error.SaysTaken := by
      intro said
      refine refused fun cause failed => ?_
      cases failed
      exact error.kind_eq_alreadyExists_iff.2 said
    have failed : Need.CutOff ((next :: rest).map (·.copyNeed ns))
        [next.copying ns (.error error)] (.createCredential next.credential.mirrorName error) :=
      .at_first (.create harm) _
    have copied : Need.AllMet (made.map (·.copyNeed ns))
        (made.zipWith (Donor.copying ns) answers) := allMet_copying fits accepted
    have copying := failed.after copied
    rw [← List.map_append] at copying
    exact copying.after (allMet_reading _)
  | @copied made answers order fits accepted =>
    exact ⟨made, order.symm,
      .met ((allMet_reading made).append (allMet_copying fits accepted)) ()⟩

/-- Whether the copies of the secrets that the steps of a test ask for have different names. -/
def distinctCopies (config : TestConfiguration) : Except RunError Unit :=
  (references ∅ (credentials config)).map fun _ => ()

/-- The copies have different names unless two of the secrets are in conflict. -/
theorem distinctCopies_cases (config : TestConfiguration) :
    distinctCopies config = .ok () ∧ ¬Conflicting (credentials config) ∨
      (∃ name first second, distinctCopies config =
          .error (.mirrorNameCollision name first second)) ∧
        Conflicting (credentials config) := by
  have outcome := listed_all (credentials config)
  rw [distinctCopies]
  cases found : references ∅ (credentials config) with
  | ok known =>
    rw [found] at outcome
    cases outcome with
    | all lists clear => exact .inl ⟨rfl, clear⟩
  | error error =>
    rw [found] at outcome
    cases outcome with
    | @collision early late credential first cut clear earlier conflict =>
      refine .inr ⟨⟨_, _, _, rfl⟩, first, ?_, credential, ?_, conflict⟩ <;> rw [cut]
      · exact List.mem_append_left _ (mem_of_first? earlier).1
      · exact List.mem_append_right _ List.mem_cons_self

end Provision

/-! ## What a run needs -/

namespace Plan

/-- A value from outside that a run cannot do without. -/
def outsideNeed (plan : Plan) (name : String) : Need :=
  .value plan.parameters (.parameter name) name

/-- What the cluster profile of a test needs, where its secret is found to be a certain one. -/
def profileNeeds (plan : Plan) (profile : Secret) : List Need :=
  match plan.config.clusterProfile with
  | none => []
  | some _ =>
    let secret := Naming.profileSecret plan.test
    .read plan.ns secret profile (.profileSecret secret) ::
      (Variable.ofProfile.map plan.outsideNeed ++ Need.ofOperator plan.parameters)

/-- What the shared environment needs. -/
def environmentNeeds (plan : Plan) (profile : Secret) : List Need :=
  (plan.config.leases.map (·.variableName)).map plan.outsideNeed ++ plan.profileNeeds profile

/-- What a fresh shared secret needs. -/
def sharedNeeds (plan : Plan) : List Need :=
  let name := Naming.sharedSecret plan.test
  [ .delete plan.ns name ClientError.SaysMissing (.deleteSecret name)
  , .create plan.ns (.secret (.shared plan.ns plan.test)) (fun _ => False) (.createSecret name) ]

/-- What the access of a test needs. -/
def accessNeeds (plan : Plan) : List Need :=
  [ Object.serviceAccount (Access.serviceAccount plan.ns plan.test)
  , .role (Access.role plan.ns plan.test)
  , .roleBinding (Access.roleBinding plan.ns plan.test) ].map fun object =>
    .create plan.ns object ClientError.SaysTaken (.createAccess object.kind.name plan.test)

/-- What a run needs before its first step, in order, where secrets are found to be certain
ones. -/
def needs (plan : Plan) (profile : Secret) (donors : List Donor) : List Need :=
  plan.environmentNeeds profile ++ (plan.sharedNeeds ++
    (.check (distinctCopies plan.config) :: copyNeeds plan.ns donors ++ plan.accessNeeds))

/-- What is read of the secrets that the steps of a test ask for, which only matters where no two of
them are in conflict. -/
def Sources (plan : Plan) (donors : List Donor) : Prop :=
  ¬Conflicting (credentials plan.config) →
    Listing (credentials plan.config) (donors.map (·.credential))

/-- The secrets that steps ask for can be listed. -/
theorem exists_sources (plan : Plan) : ∃ donors, plan.Sources donors := by
  have outcome := listed_all (credentials plan.config)
  cases found : Provision.references ∅ (credentials plan.config) with
  | ok known =>
    obtain ⟨_, listing⟩ := listing_values found
    refine ⟨known.values.map (⟨·, default⟩), fun _ => ?_⟩
    simpa [Function.comp_def] using listing
  | error error =>
    rcases distinctCopies_cases plan.config with ⟨fine, _⟩ | ⟨_, conflicting⟩
    · rw [distinctCopies, found] at fine
      cases fine
    · exact ⟨[], fun clear => absurd conflicting clear⟩

/-- The variables of the cluster profile need their values. -/
theorem outcome_ofProfile (plan : Plan) :
    Need.Outcome (Variable.ofProfile.map plan.outsideNeed ++ Need.ofOperator plan.parameters) []
      (SharedEnvironment.ofProfile plan.parameters) := by
  have profile := Need.outcome_resolveAll plan.parameters Variable.ofProfile
  refine profile.bind fun profile => ?_
  have done : ∀ operator : List EnvVar, Need.Outcome [] []
      (Except.ok (profile ++ operator) : Except RunError (List EnvVar)) :=
    fun operator => .met .nil (profile ++ operator)
  have ending := (Need.outcome_operator plan.parameters).bind done
  rwa [List.append_nil] at ending

/-- The shared environment meets its needs. -/
theorem meets_assemble (plan : Plan) :
    Need.Meets (SharedEnvironment.assemble plan)
      fun needs => ∃ profile, needs = plan.environmentNeeds profile := by
  have leases := Need.meets_ofExcept (Need.outcome_resolveAll plan.parameters
    (plan.config.leases.map (·.variableName)))
  have some : ∃ needs profile, needs = plan.profileNeeds profile := ⟨_, default, rfl⟩
  refine (Need.meets_bind leases (fun values => ?_) some).weaken ?_
  · cases declared : plan.config.clusterProfile with
    | none =>
      refine (Need.meets_pure values).weaken ?_
      rintro _ rfl
      exact ⟨default, by rw [profileNeeds, declared]⟩
    | some profile =>
      have secret := Need.meets_read plan.ns (Naming.profileSecret plan.test)
        (.profileSecret (Naming.profileSecret plan.test))
      have described := Need.meets_ofExcept plan.outcome_ofProfile
      refine (Need.meets_bind secret (fun _ => Need.meets_returning described) ⟨_, rfl⟩).weaken ?_
      rintro _ ⟨_, _, rfl, ⟨found, rfl⟩, rfl⟩
      exact ⟨found, by rw [profileNeeds, declared]; rfl⟩
  · rintro _ ⟨_, _, rfl, rfl, profile, rfl⟩
    exact ⟨profile, rfl⟩

/-- A fresh shared secret meets its needs. -/
theorem meets_resetSharedSecret (plan : Plan) :
    Need.Meets (resetSharedSecret plan) (· = plan.sharedNeeds) := by
  have deleted := Need.meets_delete plan.ns (Naming.sharedSecret plan.test)
    (.deleteSecret (Naming.sharedSecret plan.test))
  have created := Need.meets_create (.createSecret (Naming.sharedSecret plan.test)) plan.ns
    (.secret (.shared plan.ns plan.test))
  refine (Need.meets_bind deleted (fun _ => created) ⟨_, rfl⟩).weaken ?_
  rintro _ ⟨_, _, rfl, rfl, rfl⟩
  rfl

/-- Copying the secrets that steps ask for meets its needs. -/
theorem meets_mirrorCredentials (plan : Plan) :
    Need.Meets (mirrorCredentials plan) fun needs => ∃ donors, plan.Sources donors ∧
      needs = .check (distinctCopies plan.config) :: copyNeeds plan.ns donors := by
  have distinct := Need.meets_ofExcept (Need.outcome_check
    (Provision.references ∅ (credentials plan.config)))
  -- Which secrets there are to copy is known only from the result of the check.
  intro history result ends
  rcases Attempt.ends_bind_iff.1 ends with ⟨error, failed, rfl⟩ | ⟨_, _, known, rfl, went, rest⟩
  · obtain ⟨donors, sources⟩ := plan.exists_sources
    obtain ⟨_, rfl, outcome⟩ := distinct failed
    cases outcome with
    | unmet cut => exact ⟨_, ⟨donors, sources, rfl⟩, .unmet (cut.append _)⟩
  · obtain ⟨_, rfl, outcome⟩ := distinct went
    obtain ⟨_, found⟩ := Attempt.ends_ofExcept_iff.1 went
    obtain ⟨whole, listing⟩ := listing_values found.symm
    rw [whole] at rest
    obtain ⟨donors, same, copied⟩ := (mirroring_of_ends rest).outcome
    have sources : plan.Sources donors := fun _ => same ▸ listing
    refine ⟨_, ⟨donors, sources, rfl⟩, ?_⟩
    cases outcome with
    | met all => exact copied.after all

/-- The access of a test meets its needs. -/
theorem meets_createAccess (plan : Plan) :
    Need.Meets (createAccess plan) (· = plan.accessNeeds) := by
  have single : ∀ object : Object, Need.Meets
      (createIfAbsent (.createAccess object.kind.name plan.test) plan.ns object)
      (· = [.create plan.ns object ClientError.SaysTaken
        (.createAccess object.kind.name plan.test)]) :=
    fun object => Need.meets_createIfAbsent _ plan.ns object
  have others := Need.meets_bind
    (single (.role (Access.role plan.ns plan.test)))
    (fun _ => single (.roleBinding (Access.roleBinding plan.ns plan.test))) ⟨_, rfl⟩
  refine (Need.meets_bind (single (.serviceAccount (Access.serviceAccount plan.ns plan.test)))
    (fun _ => others) ⟨_, _, _, rfl, rfl, rfl⟩).weaken ?_
  rintro _ ⟨_, _, rfl, rfl, _, _, rfl, rfl, rfl⟩
  rfl

/-- Providing what the steps rely on meets the needs of a run. -/
theorem meets_all (plan : Plan) :
    Need.Meets (all plan) fun needs => ∃ profile donors, plan.Sources donors ∧
      needs = plan.needs profile donors := by
  obtain ⟨donors, sources⟩ := plan.exists_sources
  have access : ∀ shared : List EnvVar,
      Need.Meets (createAccess plan >>= fun _ => pure shared) (· = plan.accessNeeds) :=
    fun _ => Need.meets_returning plan.meets_createAccess
  have copies := fun shared => Need.meets_bind plan.meets_mirrorCredentials
    (fun _ => access shared) ⟨_, rfl⟩
  have secrets := fun shared => Need.meets_bind plan.meets_resetSharedSecret
    (fun _ => copies shared) ⟨_, _, _, rfl, ⟨donors, sources, rfl⟩, rfl⟩
  refine (Need.meets_bind plan.meets_assemble secrets
    ⟨_, _, _, rfl, rfl, _, _, rfl, ⟨donors, sources, rfl⟩, rfl⟩).weaken ?_
  rintro _ ⟨_, _, rfl, ⟨profile, rfl⟩, _, _, rfl, rfl, _, _, rfl, ⟨donors, sources, rfl⟩, rfl⟩
  exact ⟨profile, donors, sources, rfl⟩

/-- When the phases of a run are over, preparation and cleanup have begun. -/
theorem Stages.begun {plan : Plan} {shared : List EnvVar} {progress after : Progress}
    {pre test post : History Cluster} {result : Except RunError Unit}
    (stages : plan.Stages shared progress pre test post after result) :
    after.phase .pre ≠ .notStarted ∧ after.phase .post ≠ .notStarted := by
  have ended : ∀ (progress : Progress) phase outcome,
      (progress.ended phase outcome).phase phase ≠ .notStarted := by
    intro progress phase outcome
    rw [Progress.phase_ended, if_pos rfl]
    split <;> decide
  have kept : ∀ (progress : Progress) phase other outcome, other ≠ phase →
      progress.phase other ≠ .notStarted →
      (progress.ended phase outcome).phase other ≠ .notStarted := by
    intro progress phase other outcome differ begun
    rwa [Progress.phase_ended, if_neg differ]
  cases stages with
  | stopped => exact ⟨kept _ _ _ _ (by decide) (ended _ _ _), ended _ _ _⟩
  | tested =>
    exact ⟨kept _ _ _ _ (by decide) (kept _ _ _ _ (by decide) (ended _ _ _)), ended _ _ _⟩

end Plan

/-! ## All of a run -/

/-- Whatever the cluster answers, there are needs of a run that are the same but for the secrets
that are found. Either they are met up to one that is not met, and then the run asks for nothing
more and ends at once with the failure of that one, before any phase has begun. Or all of them are
met, and the phases follow, which provide nothing. -/
theorem provisioning_run {σ : Type} (plan : Plan) (progress : Progress)
    (handler : Handler Cluster σ) (state : σ) :
    let history := (plan.run progress).trace handler state
    let ended := ((plan.run progress).run handler state).1
    ∃ profile donors, plan.Sources donors ∧
      let needs := plan.needs profile donors
      ((∃ error, Need.CutOff needs history error ∧
          History.calls history <+: needs.filterMap Need.call? ∧
          ended = (progress.restarted, .error error)) ∨
        ∃ early phases, history = early ++ phases ∧ Need.AllMet needs early ∧
          History.calls early = needs.filterMap Need.call? ∧
          (∀ event ∈ phases, ClusterCall.isProvisioning event.1 = false) ∧
          ended.1.phase .pre ≠ .notStarted ∧ ended.1.phase .post ≠ .notStarted) := by
  intro history ended
  rcases Plan.ends_run (ends_run handler (plan.run progress) state) with
    ⟨error, failed, same, result⟩ | ⟨shared, early, pre, test, post, whole, provided, stages⟩
  · obtain ⟨_, ⟨profile, donors, sources, rfl⟩, outcome⟩ := plan.meets_all failed
    refine ⟨profile, donors, sources, .inl ?_⟩
    cases outcome with
    | unmet cut => exact ⟨error, cut, cut.calls, Prod.ext same result⟩
  · obtain ⟨_, ⟨profile, donors, sources, rfl⟩, outcome⟩ := plan.meets_all provided
    refine ⟨profile, donors, sources, .inr ⟨early, _, whole, ?_⟩⟩
    cases outcome with
    | met all =>
      exact ⟨all, all.calls, stages.provide_nothing, stages.begun⟩

end StagedTest
