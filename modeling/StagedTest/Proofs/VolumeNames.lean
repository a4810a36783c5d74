import Mathlib.Data.List.Nodup
import StagedTest.Proofs.Coverage
import StagedTest.Proofs.Credentials

/-!
# The names of a pod's volumes

A container finds a volume of its pod by name. Some volumes of a step's pod have the same name in
every test, the volume of the shared directory is called after the test, and the volume of a secret
after its copy. The main statement says exactly when no two volumes of a pod have the same name, and
that this is when each mount leads to one volume.
-/
namespace StagedTest

open Program

/-- The volumes of a pod. -/
def Pod.volumes (pod : Pod) : List Volume := (pod.spec.bind (·.volumes)).getD []

/-- The names of a pod's volumes. -/
def Pod.volumeNames (pod : Pod) : List String := pod.volumes.map (·.name)

/-- The volumes that a container mounts. -/
def Container.mounts (container : Container) : List VolumeMount := container.volumeMounts.getD []

/-! ## Names of volumes -/

namespace Step

/-- The names of the volumes of a step's pod that are the same in every test. -/
def commonVolumes (config : TestConfiguration) (step : Step) : List String :=
  (step.artifactDirectory.toList.map fun _ => "artifacts") ++ ["home"] ++
    (if step.readonlySharedDirectory then [] else ["secret-wrapper"]) ++
    (config.clusterProfile.toList.map fun _ => "cluster-profile") ++
    (step.cli.toList.map fun _ => "cli")

/-- No two of these names are the same. -/
theorem nodup_commonVolumes (config : TestConfiguration) (step : Step) :
    (step.commonVolumes config).Nodup := by
  have optional : ∀ {α : Type} (part : Option α) (name : String),
      (part.toList.map fun _ => name).Sublist [name] := by
    intro α part name
    cases part <;> simp
  have wrapped : (if step.readonlySharedDirectory then [] else ["secret-wrapper"]).Sublist
      ["secret-wrapper"] := by
    split <;> simp
  -- What is left out of the full list leaves the rest without doubles.
  have part : (step.commonVolumes config).Sublist
      (["artifacts"] ++ ["home"] ++ ["secret-wrapper"] ++ ["cluster-profile"] ++ ["cli"]) :=
    ((((optional _ _).append (.refl _)).append wrapped).append (optional _ _)).append
      (optional _ _)
  exact part.nodup (by decide)

end Step

namespace Workload

variable (workload : Workload)

/-- The volumes of a step's pod are those that are attached to it. -/
theorem volumeNames_attachments :
    workload.pod.volumeNames = workload.attachments.map (·.mount.name) := by
  change (workload.attachments.map (·.volume)).map (·.name) = _
  rw [List.map_map]
  rfl

/-- They are called by the names that are the same in every test, then by that of the test, and then
by those of copied secrets. -/
theorem volumeNames_pod : workload.pod.volumeNames =
    workload.step.commonVolumes workload.plan.config ++
      (workload.plan.test :: workload.step.credentials.map (·.mirrorName)) := by
  have wrapping : (if workload.isWrapped then [wrapper] else []).map (·.mount.name) =
      if workload.step.readonlySharedDirectory then [] else ["secret-wrapper"] := by
    rw [isWrapped]
    cases workload.step.readonlySharedDirectory <;> rfl
  have optional : ∀ {α : Type} (part : Option α) (attachment : Attachment),
      (part.toList.map fun _ => attachment).map (·.mount.name) =
        part.toList.map fun _ => attachment.mount.name := by
    intro α part attachment
    cases part <;> rfl
  have secrets : (workload.step.credentials.map credential).map (·.mount.name) =
      workload.step.credentials.map (·.mirrorName) := by
    rw [List.map_map]
    rfl
  rw [volumeNames_attachments, attachments, Step.commonVolumes]
  simp only [List.map_append, wrapping, optional, secrets]
  simp only [List.append_assoc]
  rfl

/-- What a container of a step's pod mounts is attached to the pod. -/
theorem attached_of_mounted {container : Container}
    (ofPod : container ∈ workload.pod.preparing ++ workload.pod.working)
    {mount : VolumeMount} (mounted : mount ∈ container.mounts) :
    ∃ attachment ∈ workload.attachments, attachment.mount = mount := by
  rcases List.mem_append.1 ofPod with preparing | working
  · rw [preparing_pod] at preparing
    rcases List.mem_append.1 preparing with wrapping | injecting
    · split at wrapping
      · rename_i wrapped
        obtain rfl := List.mem_singleton.1 wrapping
        obtain rfl := List.mem_singleton.1 mounted
        exact ⟨wrapper, by simp [attachments, wrapped], rfl⟩
      · contradiction
    · obtain ⟨image, asked, rfl⟩ := List.mem_map.1 injecting
      obtain rfl := List.mem_singleton.1 mounted
      obtain ⟨release, tool, _⟩ := Option.map_eq_some_iff.1 (Option.mem_toList.1 asked)
      exact ⟨cli, by simp [attachments, tool], rfl⟩
  · obtain rfl := List.mem_singleton.1 working
    exact List.mem_map.1 mounted

/-- No two volumes of a step's pod have the same name exactly if each mount of its containers leads
to one volume. -/
theorem nodup_volumeNames_iff_mounts :
    workload.pod.volumeNames.Nodup ↔
      ∀ container ∈ workload.pod.preparing ++ workload.pod.working, ∀ mount ∈ container.mounts,
        workload.pod.volumeNames.count mount.name = 1 := by
  rw [List.nodup_iff_count_eq_one]
  constructor
  · intro once container ofPod mount mounted
    obtain ⟨attachment, attached, rfl⟩ := workload.attached_of_mounted ofPod mounted
    refine once _ ?_
    rw [volumeNames_attachments]
    exact List.mem_map_of_mem attached
  · intro once name member
    rw [volumeNames_attachments] at member
    obtain ⟨attachment, attached, rfl⟩ := List.mem_map.1 member
    -- The step's own container mounts all that is attached.
    have ofPod : workload.container ∈ workload.pod.preparing ++ workload.pod.working :=
      List.mem_append_right _ (List.mem_singleton_self _)
    exact once _ ofPod attachment.mount (List.mem_map_of_mem attached)

end Workload

/-! ## Names that are used twice -/

/-- The volumes of a pod that is built for a step have different names exactly if the test is not
called like a volume that is the same in every test, no copied secret is called like one of these or
like the test, and the step does not ask for one secret twice. This is also when each mount of the
pod's containers leads to one volume. -/
theorem nodup_volumeNames_iff {plan : Plan} {shared : List EnvVar} {step : Step}
    {history : History Cluster} {pod : Pod} {known : StringMap Credential}
    (ofTest : step ∈ plan.config.steps)
    (listed : Provision.references ∅ (Provision.credentials plan.config) = .ok known)
    (built : (Batch.buildPod plan shared step).Ends history (.ok pod)) :
    (pod.volumeNames.Nodup ↔
      plan.test ∉ step.commonVolumes plan.config ∧
        (∀ credential ∈ step.credentials, credential.mirrorName ≠ plan.test ∧
          credential.mirrorName ∉ step.commonVolumes plan.config) ∧
        step.credentials.Pairwise fun first second => ¬first.Same second) ∧
    (pod.volumeNames.Nodup ↔
      ∀ container ∈ pod.preparing ++ pod.working, ∀ mount ∈ container.mounts,
        pod.volumeNames.count mount.name = 1) := by
  obtain ⟨workload, rfl, rfl, rfl⟩ := Batch.workload_of_buildPod built
  refine ⟨?_, workload.nodup_volumeNames_iff_mounts⟩
  have clear := Provision.not_conflicting_of_listed listed
  have asked : ∀ credential ∈ workload.step.credentials,
      credential ∈ Provision.credentials workload.plan.config := fun credential member =>
    List.mem_flatMap.2 ⟨workload.step, ofTest, member⟩
  -- Two copies of one name are of one secret, as the secrets of the whole test can be listed.
  have copies : (workload.step.credentials.map (·.mirrorName)).Nodup ↔
      workload.step.credentials.Pairwise fun first second => ¬first.Same second := by
    rw [List.Nodup, List.pairwise_map]
    refine List.Pairwise.iff_of_mem fun early late => not_congr ?_
    exact Credential.mirrorName_eq_iff clear (asked _ early) (asked _ late)
  have own : workload.plan.test ∉ workload.step.credentials.map (·.mirrorName) ↔
      ∀ credential ∈ workload.step.credentials, credential.mirrorName ≠ workload.plan.test := by
    simp
  have apart : (workload.step.commonVolumes workload.plan.config).Disjoint
        (workload.step.credentials.map (·.mirrorName)) ↔
      ∀ credential ∈ workload.step.credentials,
        credential.mirrorName ∉ workload.step.commonVolumes workload.plan.config := by
    simp [List.disjoint_right]
  have common := workload.step.nodup_commonVolumes workload.plan.config
  rw [workload.volumeNames_pod, List.nodup_append', List.nodup_cons, List.disjoint_cons_right,
    copies, own, apart]
  constructor
  · rintro ⟨_, ⟨notTest, once⟩, free, noneCommon⟩
    exact ⟨free, fun credential member => ⟨notTest credential member, noneCommon credential member⟩,
      once⟩
  · rintro ⟨free, different, once⟩
    exact ⟨common, ⟨fun credential member => (different credential member).1, once⟩, free,
      fun credential member => (different credential member).2⟩

/-- The pod of the small test's first step has four volumes, and no two of them have the same
name. -/
theorem nodup_volumeNames_small :
    ∃ pod, ((Batch.buildPod .small [] .prepare).run Rehearsal.handler (.small [])).1 = .ok pod ∧
      pod.volumeNames = ["home", "secret-wrapper", "e2e", "vault-token"] ∧
      pod.volumeNames.Nodup := by
  have ofTest : Step.prepare ∈ Plan.small.config.steps := List.mem_cons_self
  have listed : Provision.references ∅ (Provision.credentials Plan.small.config) =
      .ok (.ofList [("vault-token", ⟨"vault", "token", "/token"⟩)]) := rfl
  have ends := ends_run Rehearsal.handler (Batch.buildPod .small [] .prepare) (.small [])
  exact ⟨_, rfl, rfl, (nodup_volumeNames_iff ofTest listed ends).1.2 (by decide)⟩

/-- A step that finds one secret in two directories. -/
def Step.twice : Step :=
  { Step.prepare with
    credentials :=
      [ { ns := "vault", name := "token", mountPath := "/token" }
      , { ns := "vault", name := "token", mountPath := "/copy" } ] }

/-- The small test with such a step. -/
def Plan.twice : Plan := { Plan.small with config := { Plan.small.config with pre := [.twice] } }

/-- The secrets of that test can be listed, and still two volumes of the step's pod have the same
name. -/
theorem not_nodup_volumeNames_twice :
    Step.twice ∈ Plan.twice.config.steps ∧
      (∃ known, Provision.references ∅ (Provision.credentials Plan.twice.config) = .ok known) ∧
      ∃ pod, ((Batch.buildPod .twice [] .twice).run Rehearsal.handler (.small [])).1 = .ok pod ∧
        pod.volumeNames = ["home", "secret-wrapper", "e2e", "vault-token", "vault-token"] ∧
        ¬pod.volumeNames.Nodup := by
  refine ⟨List.mem_cons_self, ⟨_, rfl⟩, _, rfl, rfl, ?_⟩
  decide

end StagedTest
