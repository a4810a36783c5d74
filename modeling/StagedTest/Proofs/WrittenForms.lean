import StagedTest.Link
import StagedTest.Plan
import StagedTest.Proofs.Codecs

/-!
# The written forms of declarations

Tests, builds, jobs and links are written as JSON. The main statement says that each of them is read
back from what is printed of it, in whatever order the fields are listed, and that whatever is read
is printed in one form, which stays the same when it is read and printed again.
-/
namespace StagedTest

open Codec Fields Value

/-! ## Tests -/

/-- A profile is read back. -/
theorem ClusterProfile.faithful_codec : ClusterProfile.codec.Faithful :=
  faithful_text.wrap fun _ => rfl

/-- An imported image is read back. -/
theorem ImageReference.faithful_codec : ImageReference.codec.Faithful :=
  Fields.Faithful.codec
    ((faithful_required "namespace" faithful_text ns).map ImageReference.mk
      |>.seq (faithful_required "name" faithful_text name)
      |>.seq (faithful_required "tag" faithful_text tag))
    (by decide) _

/-- What a step asks of its machine is read back. -/
theorem ResourceNeeds.faithful_codec : ResourceNeeds.codec.Faithful :=
  Fields.Faithful.codec
    ((faithful_defaulted "requests" faithful_text.map ∅ requests).map ResourceNeeds.mk
      |>.seq (faithful_defaulted "limits" faithful_text.map ∅ limits))
    (by decide) _

/-- A parameter of a step is read back. -/
theorem StepParameter.faithful_codec : StepParameter.codec.Faithful :=
  Fields.Faithful.codec
    ((faithful_required "name" faithful_text name).map StepParameter.mk
      |>.seq (faithful_optional "default" faithful_text StepParameter.default)
      |>.seq (faithful_optional "value" faithful_text value))
    (by decide) _

/-- A credential is read back. -/
theorem Credential.faithful_codec : Credential.codec.Faithful :=
  Fields.Faithful.codec
    ((faithful_required "namespace" faithful_text ns).map Credential.mk
      |>.seq (faithful_required "name" faithful_text name)
      |>.seq (faithful_required "mount_path" faithful_text mountPath))
    (by decide) _

/-- A dependency is read back. -/
theorem Dependency.faithful_codec : Dependency.codec.Faithful :=
  Fields.Faithful.codec
    ((faithful_required "name" faithful_text name).map Dependency.mk
      |>.seq (faithful_required "env" faithful_text variableName))
    (by decide) _

/-- A step is read back. -/
theorem Step.faithful_codec : Step.codec.Faithful :=
  Fields.Faithful.codec
    ((faithful_required "as" faithful_text name).map Step.mk
      |>.seq (faithful_defaulted "from" faithful_text "" image)
      |>.seq (faithful_optional "from_image" ImageReference.faithful_codec importedImage)
      |>.seq (faithful_defaulted "commands" faithful_text "" commands)
      |>.seq (faithful_defaulted "resources" ResourceNeeds.faithful_codec .none resources)
      |>.seq (faithful_defaulted "env" StepParameter.faithful_codec.list [] parameters)
      |>.seq (faithful_defaulted "credentials" Credential.faithful_codec.list [] credentials)
      |>.seq (faithful_defaulted "dependencies" Dependency.faithful_codec.list [] dependencies)
      |>.seq (faithful_optional "cli" faithful_text cli)
      |>.seq (faithful_optional "active_deadline_seconds" faithful_int64 activeDeadlineSeconds)
      |>.seq (faithful_optional "termination_grace_period_seconds" faithful_int64
        terminationGracePeriodSeconds)
      |>.seq (faithful_defaulted "readonly_shared_dir" faithful_bool false readonlySharedDirectory)
      |>.seq (faithful_optional "optional_on_success" faithful_bool optionalOnSuccess)
      |>.seq (faithful_optional "artifact_dir" faithful_text artifactDirectory))
    (by decide) _

/-- A lease is read back. -/
theorem Lease.faithful_codec : Lease.codec.Faithful :=
  Fields.Faithful.codec
    ((faithful_required "resource_type" faithful_text resourceType).map Lease.mk
      |>.seq (faithful_required "env" faithful_text variableName))
    (by decide) _

/-- A test is read back. -/
theorem TestConfiguration.faithful_codec : TestConfiguration.codec.Faithful :=
  Fields.Faithful.codec
    ((faithful_required "as" faithful_text name).map TestConfiguration.mk
      |>.seq (faithful_optional "cluster_profile" ClusterProfile.faithful_codec clusterProfile)
      |>.seq (faithful_defaulted "environment" faithful_text.map ∅ environment)
      |>.seq (faithful_defaulted "pre" Step.faithful_codec.list [] pre)
      |>.seq (faithful_defaulted "test" Step.faithful_codec.list [] test)
      |>.seq (faithful_defaulted "post" Step.faithful_codec.list [] post)
      |>.seq (faithful_optional "allow_skip_on_success" faithful_bool allowSkipOnSuccess)
      |>.seq (faithful_defaulted "leases" Lease.faithful_codec.list [] leases))
    (by decide) _

/-! ## Builds and jobs -/

/-- The place of the code is read back. -/
theorem SourceMetadata.faithful_codec : SourceMetadata.codec.Faithful :=
  Fields.Faithful.codec
    ((faithful_required "org" faithful_text org).map SourceMetadata.mk
      |>.seq (faithful_required "repo" faithful_text repo)
      |>.seq (faithful_required "branch" faithful_text branch)
      |>.seq (faithful_textUnlessEmpty "variant" variant))
    (by decide) _

/-- A build is read back. -/
theorem BuildConfiguration.faithful_codec : BuildConfiguration.codec.Faithful :=
  Fields.Faithful.codec
    ((faithful_required "metadata" SourceMetadata.faithful_codec metadata).map
        BuildConfiguration.mk
      |>.seq (faithful_defaulted "images" faithful_textSet ∅ images))
    (by decide) _

/-- The owner of an object is read back. -/
theorem OwnerReference.faithful_codec : OwnerReference.codec.Faithful :=
  Fields.Faithful.objectCodec
    ((faithful_lenient "apiVersion" faithful_text "" apiVersion).map OwnerReference.mk
      |>.seq (faithful_optional "blockOwnerDeletion" faithful_bool blockOwnerDeletion)
      |>.seq (faithful_optional "controller" faithful_bool controller)
      |>.seq (faithful_lenient "kind" faithful_text "" kind)
      |>.seq (faithful_lenient "name" faithful_text "" name)
      |>.seq (faithful_lenient "uid" faithful_text "" uid))
    (by decide) _

/-- A job is read back. -/
theorem Job.faithful_codec : Job.codec.Faithful :=
  Fields.Faithful.codec
    ((faithful_required "namespace" faithful_text ns).map Job.mk
      |>.seq (faithful_required "job" faithful_text name)
      |>.seq (faithful_optional "owner" OwnerReference.faithful_codec owner))
    (by decide) _

/-! ## Links -/

namespace Link

/-- A link that is made of what a group of fields holds is read back from fields among which those of
the group and its type stand. -/
theorem map_decodeGroup {α : Type} {group : Fields α α}
    (faithful : group.Faithful fun record => record)
    (distinct : ("type" :: group.names).Nodup) (variant : String) (make : α → Link) (record : α)
    {type : Value} {fields : List (String × Value)} (once : (fields.map (·.1)).Nodup)
    (agree : ∀ name, Option.Rel Reordered (lookup name (("type", type) :: group.print record))
      (lookup name fields)) :
    (decodeGroup variant group (.inl fields)).map make = .ok (make record) := by
  obtain ⟨apart, distinct⟩ := List.nodup_cons.1 distinct
  have read : group.decodeRecord fields = .ok record := by
    refine faithful.decodeRecord_eq distinct once fun name member => ?_
    have other : "type" ≠ name := by
      rintro rfl
      exact apart member
    have same := agree name
    rwa [lookup, if_neg other] at same
  rw [decodeGroup, read]
  rfl

/-- The fields of a link have different names. -/
theorem nodup_fields (link : Link) :
    ((typeField.print link ++ link.fields).map (·.1)).Nodup := by
  cases link with
  | internalImage => exact (by decide : ["type", "tag"].Nodup)
  | externalImage => exact (by decide : ["type", "stream", "tag"].Nodup)
  | releaseImages | releasePayloadImage => exact (by decide : ["type", "release"].Nodup)
  | imagesReady => exact List.nodup_singleton _

/-- The kind of a link is read back. -/
theorem Kind.faithful_codec : Kind.codec.Faithful := by
  refine ⟨fun kind printed reordered => ?_, fun kind => .text kind.word, fun _ => rfl⟩
  obtain rfl := reordered.eq_of_isScalar trivial
  cases kind <;> rfl

/-- The field that tells what a link is is read back. -/
theorem faithful_typeField : typeField.Faithful kind :=
  faithful_required "type" Kind.faithful_codec kind

/-- The field of a tag is read back. -/
theorem faithful_tagField : tagField.Faithful fun tag => tag :=
  faithful_required "tag" faithful_text id

/-- The field of a release is read back. -/
theorem faithful_releaseField : releaseField.Faithful fun release => release :=
  faithful_required "release" faithful_text id

/-- The fields of an image are read back. -/
theorem faithful_imageFields : imageFields.Faithful fun image => image :=
  (faithful_required "stream" faithful_text ImageTag.stream).map ImageTag.mk
    |>.seq (faithful_required "tag" faithful_text ImageTag.tag)

/-- Nothing is read back from no fields. -/
theorem faithful_nothing : nothing.Faithful fun none => none := faithful_pure ()

/-- The fields of a link can be written. -/
theorem writable_fields (link : Link) :
    ∀ field ∈ typeField.print link ++ link.fields, field.2.Writable := by
  intro field member
  rcases List.mem_append.1 member with member | member
  · exact faithful_typeField.writable link field member
  · cases link with
    | internalImage name => exact faithful_tagField.writable name field member
    | externalImage stream name => exact faithful_imageFields.writable ⟨stream, name⟩ field member
    | releaseImages name | releasePayloadImage name =>
      exact faithful_releaseField.writable name field member
    | imagesReady => cases member

/-- A link is read back from fields among which those that are printed of it stand. -/
theorem decodeAs_eq (link : Link) {fields : List (String × Value)}
    (once : (fields.map (·.1)).Nodup)
    (agree : ∀ name, Option.Rel Reordered
      (lookup name (typeField.print link ++ link.fields)) (lookup name fields)) :
    decodeAs (.inl fields) link.kind = .ok link := by
  cases link with
  | internalImage name => exact map_decodeGroup faithful_tagField (by decide) _ _ name once agree
  | externalImage stream name =>
    exact map_decodeGroup faithful_imageFields (by decide) _
      (fun image => .externalImage image.stream image.tag) ⟨stream, name⟩ once agree
  | releaseImages name | releasePayloadImage name =>
    exact map_decodeGroup faithful_releaseField (by decide) _ _ name once agree
  | imagesReady => exact map_decodeGroup faithful_nothing (by decide) _ _ () once agree

/-- A link is read back. -/
theorem faithful_codec : Link.codec.Faithful := by
  refine ⟨fun link printed reordered => ?_, fun link => ?_, fun _ => rfl⟩
  · obtain ⟨others, shuffled, rfl, each, order⟩ := reordered_record_iff.1 reordered
    obtain ⟨once, agree⟩ := of_reordered_record link.nodup_fields each order
    have kind : typeField.decodeRecord shuffled = .ok link.kind := by
      refine faithful_typeField.decodeRecord_eq (List.nodup_singleton _) once fun name member => ?_
      obtain rfl := List.mem_singleton.1 member
      exact agree "type"
    change (typeField.decodeRecord shuffled).bind (decodeAs (.inl shuffled)) = _
    rw [kind]
    exact link.decodeAs_eq once agree
  · exact .record link.nodup_fields link.writable_fields

end Link

/-! ## All of them -/

/-- Tests, builds, jobs and links are read back from what is printed of them, as values and as
texts, and whatever is read as one of them is printed in one form that stays. -/
theorem declarations_settle :
    TestConfiguration.codec.Settles ∧ BuildConfiguration.codec.Settles ∧ Job.codec.Settles ∧
      Link.codec.Settles :=
  ⟨TestConfiguration.faithful_codec.settles, BuildConfiguration.faithful_codec.settles,
    Job.faithful_codec.settles, Link.faithful_codec.settles⟩

end StagedTest
