import StagedTest.Proofs.Mirroring
import StagedTest.Proofs.RehearsalSteps
import StagedTest.Proofs.Provisioning

/-!
# What copies hold

Where no copy was there before, the secrets that steps ask for are copied with their contents. There
is one exception: the shared secret of a test has the name of the test, and where a copy has that
name, too, the empty shared secret is taken for the copy. The main statement says of each copy
whether it holds what its original held when it was read.
-/
namespace StagedTest

open Program

/-- What a secret holds, besides its metadata. -/
def Secret.contents (secret : Secret) :
    Option String × Option (StringMap (List UInt8)) × Option (StringMap String) :=
  (secret.type, secret.data, secret.stringData)

namespace Provision

open Credential

variable {plan : Plan} {truthful : Prop} {start after : Store}

/-- Reading secrets changes nothing and gives what is there. -/
theorem follows_readings {made : List Donor}
    (follows : Follows (Store.Step truthful) start (made.map (·.reading)) after) :
    after = start ∧ ∀ donor ∈ made,
      start.secretAt donor.credential.ns donor.credential.name = some donor.source := by
  induction made generalizing start with
  | nil => exact ⟨follows_nil_iff.1 follows, by simp⟩
  | cons donor rest ih =>
    obtain ⟨middle, ⟨rfl, object, stored, read⟩, later⟩ := follows_cons_iff.1 follows
    obtain ⟨same, others⟩ := ih later
    refine ⟨same, List.forall_mem_cons.2 ⟨?_, others⟩⟩
    rw [Store.secretAt, stored]
    exact congrArg some read

/-- Each secret that steps ask for is read once the shared secret is fresh, and is there then. -/
theorem read_renewed {history : History Cluster} {shared : List EnvVar}
    (ends : (all plan).run.Ends history (.ok shared))
    (follows : Follows (Store.Step truthful) start history after) {credential : Credential}
    (asked : credential ∈ credentials plan.config) :
    ∃ source, ⟨ClusterCall.readSecret credential.ns credential.name, .ok source⟩ ∈ history ∧
      (plan.renewed start).secretAt credential.ns credential.name = some source := by
  obtain ⟨assembling, resetting, copying, last, rfl, assembled, reset, copied, _⟩ := ends_all ends
  obtain ⟨first, led, rest⟩ := follows_append_iff.1 follows
  obtain rfl : first = start := (ensures_assemble plan rfl assembled led).1
  obtain ⟨second, led, rest⟩ := follows_append_iff.1 rest
  obtain rfl : second = plan.renewed first :=
    (ensures_resetSharedSecret plan rfl reset led).2 () rfl
  obtain ⟨third, led, _⟩ := follows_append_iff.1 rest
  rcases ends_mirrorCredentials copied with ⟨_, _, _, _, _, _, _, _, _, wrong⟩ |
    ⟨_, donors, listing, mirroring⟩
  · cases wrong
  cases mirroring with
  | @copied made answers order fits accepted =>
    obtain ⟨_, reading, _⟩ := follows_append_iff.1 led
    obtain ⟨donor, listed, ns, name⟩ := listing.complete credential asked
    obtain ⟨found, member, rfl⟩ := List.mem_map.1 (order ▸ listed)
    rw [← ns, ← name]
    refine ⟨found.source, ?_, (follows_readings reading).2 found member⟩
    exact List.mem_append_right _ (List.mem_append_right _ (List.mem_append_left _
      (List.mem_append_left _ (List.mem_map_of_mem member))))

/-- Where provisioning goes well and no copy was there before, each copy is there afterwards, and
is a copy of what was read, unless it has the name of the shared secret. -/
theorem get?_mirror {history : History Cluster} {shared : List EnvVar}
    (ends : (all plan).run.Ends history (.ok shared))
    (follows : Follows (Store.Step True) start history after) {credential : Credential}
    (asked : credential ∈ credentials plan.config)
    (free : start.get? ⟨.secret, plan.ns, credential.mirrorName⟩ = none) :
    ∃ source, ⟨ClusterCall.readSecret credential.ns credential.name, .ok source⟩ ∈ history ∧
      after.get? ⟨.secret, plan.ns, credential.mirrorName⟩ =
        some (.secret (if credential.mirrorName = Naming.sharedSecret plan.test
          then .shared plan.ns plan.test
          else source.mirrored plan.ns credential.mirrorName)) := by
  obtain ⟨source, read, stored⟩ := read_renewed ends follows asked
  obtain ⟨_, filled, provided⟩ := (ensures_all plan rfl ends follows).2 shared rfl
  refine ⟨source, read, ?_⟩
  split
  · rename_i named
    rw [named]
    exact (provided trivial).shared
  · rename_i named
    obtain ⟨references, known, there⟩ := (provided trivial).copies
    obtain ⟨listed, member, ns, name⟩ := mem_entries_of_asked known asked
    have absent : (plan.renewed start).get? ⟨.secret, plan.ns, credential.mirrorName⟩ = none := by
      rw [Plan.get?_renewed, if_neg, free]
      exact fun same => named (congrArg ObjectKey.name same)
    rcases filled ⟨.secret, plan.ns, credential.mirrorName⟩ with kept | ⟨_, put⟩
    · -- Nothing has come where nothing was, although all copies are there.
      have held : (after.get? ⟨.secret, plan.ns, credential.mirrorName⟩).isSome = true :=
        there _ member
      rw [kept, absent] at held
      cases held
    · rw [← ns, ← name] at stored
      exact put.trans (planned_copy known member stored)

/-- Where provisioning goes well in an in-memory cluster that had no secret with the name of a copy,
there is a copy of each secret that steps ask for. It holds what the secret held when it was read,
unless it has the name of the test: then it is the empty shared secret. -/
theorem contents_mirror {plan : Plan} {state : Rehearsal} {shared : List EnvVar}
    (truthful : Rehearsal.Truthful state.failures)
    (free : ∀ credential ∈ credentials plan.config,
      state.store.get? ⟨.secret, plan.ns, credential.mirrorName⟩ = none)
    (provided : ((all plan).run.run Rehearsal.handler state).1 = .ok shared) :
    ∀ credential ∈ credentials plan.config, ∃ source mirror,
      ⟨ClusterCall.readSecret credential.ns credential.name, .ok source⟩ ∈
        (all plan).run.trace Rehearsal.handler state ∧
      ((all plan).run.run Rehearsal.handler state).2.store.get?
        ⟨.secret, plan.ns, credential.mirrorName⟩ = some (.secret mirror) ∧
      mirror.contents =
        if credential.mirrorName = Naming.sharedSecret plan.test then (none, none, none)
        else source.contents := by
  intro credential asked
  have ends := ends_run Rehearsal.handler (all plan).run state
  rw [provided] at ends
  obtain ⟨source, read, stored⟩ := get?_mirror ends
    (Rehearsal.follows_step True (all plan).run state fun _ => truthful) asked (free _ asked)
  refine ⟨source, _, read, stored, ?_⟩
  split <;> rfl

/-- A secret that holds a key. -/
def keySecret : Secret := { data := some (.ofList [("key", [42])]), type := some "Opaque" }

/-- A cluster in which that is the secret of the small test. -/
def stocked : Rehearsal where
  store := Store.empty.put ⟨.secret, "vault", "token"⟩ (.secret keySecret)

/-- Nothing is scripted for that cluster. -/
theorem truthful_stocked : Rehearsal.Truthful stocked.failures := by
  simp [Rehearsal.Truthful, stocked]

/-- The copy of the small test's secret holds the key. -/
theorem contents_mirror_small :
    ((all .small).run.run Rehearsal.handler stocked).1 = .ok [] ∧
      ∃ source mirror,
        ⟨ClusterCall.readSecret "vault" "token", .ok source⟩ ∈
          (all .small).run.trace Rehearsal.handler stocked ∧
        ((all .small).run.run Rehearsal.handler stocked).2.store.get?
          ⟨.secret, "ci", "vault-token"⟩ = some (.secret mirror) ∧
        mirror.contents = source.contents := by
  have free : ∀ credential ∈ credentials Plan.small.config,
      stocked.store.get? ⟨.secret, Plan.small.ns, credential.mirrorName⟩ = none := by decide
  exact ⟨rfl, contents_mirror truthful_stocked free rfl ⟨"vault", "token", "/token"⟩
    List.mem_cons_self⟩

/-- The small test under the name that the copy of its secret has. -/
def namesake : Plan :=
  { Plan.small with config := { Plan.small.config with name := "vault-token" } }

/-- Where the test has the name of a copy, everything is provided and the secret is read, and still
there is only the empty shared secret in place of the copy. -/
theorem contents_mirror_namesake :
    Rehearsal.Truthful stocked.failures ∧
      stocked.store.get? ⟨.secret, "ci", "vault-token"⟩ = none ∧
      ((all namesake).run.run Rehearsal.handler stocked).1 = .ok [] ∧
      ⟨ClusterCall.readSecret "vault" "token", .ok keySecret⟩ ∈
        (all namesake).run.trace Rehearsal.handler stocked ∧
      ∃ mirror, ((all namesake).run.run Rehearsal.handler stocked).2.store.get?
          ⟨.secret, "ci", "vault-token"⟩ = some (.secret mirror) ∧
        mirror.contents ≠ keySecret.contents := by
  refine ⟨truthful_stocked, rfl, rfl, List.mem_of_getElem? (i := 2) rfl, _, rfl, ?_⟩
  intro same
  cases congrArg Prod.fst same

end Provision

end StagedTest
