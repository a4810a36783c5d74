import StagedTest.Link

/-!
# Releases and their streams

A scheduler that reads a link to the images of a release imports the stream of that release. The
link was made from the stream of an image, so the two directions have to agree. The main statement
tells how far they do: a release that has a name is found again from its stream, and a stream that
is taken for that of a release is found again from the release, except for one. The latest release
has a short stream, and a stream that is called like those of the other releases after the word for
the latest one is taken for it, too.
-/
namespace StagedTest

namespace Naming

/-- A text after the beginning that the streams of releases have in common is the stream of that
release, unless it is the word for the latest one. -/
theorem releaseStream_of_ne {release : String} (other : release ≠ "latest") :
    releaseStream release = "stable-" ++ release := by
  have long : releaseStream release = stableStream ++ "-" ++ release := if_neg other
  rw [long]
  rfl

/-- A stream is taken for that of a release exactly if the release has a name and the stream is its
own, or is called after the word for the latest release. -/
theorem releaseName?_eq_some_iff {stream release : String} :
    releaseName? stream = some release ↔
      release ≠ "" ∧
        (stream = releaseStream release ∨ release = "latest" ∧ stream = "stable-latest") := by
  constructor
  · intro found
    unfold releaseName? at found
    by_cases short : stream = stableStream
    · rw [if_pos short] at found
      have latest : latestRelease = release := Option.some.inj found
      subst latest short
      exact ⟨by decide, .inl rfl⟩
    · rw [if_neg short] at found
      obtain ⟨behind, named⟩ := Option.filter_eq_some_iff.1 found
      have whole : stream = "stable-" ++ release := Text.eq_append_of_after? behind
      have nonempty : release ≠ "" := by simpa using named
      by_cases latest : release = "latest"
      · subst latest
        exact ⟨nonempty, .inr ⟨rfl, whole⟩⟩
      · rw [releaseStream_of_ne latest]
        exact ⟨nonempty, .inl whole⟩
  · rintro ⟨named, rfl | ⟨rfl, rfl⟩⟩
    · exact releaseName?_releaseStream named
    · rfl

end Naming

namespace Link

/-- The images of a release are linked to by the images in the streams that are taken for that of
the release, and by no others. -/
theorem ofImage_eq_releaseImages_iff {image : ImageTag} {release : String} :
    ofImage image = .releaseImages release ↔
      release ≠ "" ∧ (image.stream = Naming.releaseStream release ∨
        release = "latest" ∧ image.stream = "stable-latest") := by
  rw [← Naming.releaseName?_eq_some_iff]
  constructor
  · intro linked
    unfold ofImage at linked
    split at linked
    · cases linked
    · split at linked
      · cases linked
      · split at linked
        · rename_i found
          cases linked
          exact found
        · cases linked
  · intro found
    -- Both streams with a meaning of their own are no streams of releases.
    have notPipeline : image.stream ≠ ImageTag.pipelineStream := by
      intro same
      rw [same] at found
      cases found
    have notPayload : image.stream ≠ ImageTag.releaseStream := by
      intro same
      rw [same] at found
      cases found
    unfold ofImage
    rw [if_neg notPipeline, if_neg notPayload, found]

end Link

namespace Naming

/-- No release has the stream that is called after the word for the latest one. -/
theorem releaseStream_ne_namesake (release : String) :
    releaseStream release ≠ "stable-latest" := by
  intro same
  by_cases latest : release = "latest"
  · rw [latest] at same
    exact absurd same (by decide)
  · rw [releaseStream_of_ne latest] at same
    have behind : Text.after? "stable-" ("stable-" ++ release) = some "latest" := by
      rw [same]
      rfl
    rw [Text.after?_append] at behind
    exact latest (Option.some.inj behind)

/-- What is taken for the stream of a release is its stream, unless it is called after the word for
the latest release. -/
theorem releaseStream_eq_iff {stream release : String}
    (taken : stream = releaseStream release ∨ release = "latest" ∧ stream = "stable-latest") :
    releaseStream release = stream ↔ stream ≠ "stable-latest" := by
  constructor
  · intro same
    rw [← same]
    exact releaseStream_ne_namesake release
  · intro other
    rcases taken with own | ⟨_, namesake⟩
    · exact own.symm
    · exact absurd namesake other

/-- A release that has a name is found again from its stream. The stream that a name of a release
was read from is found again from the release exactly if it is not called after the word for the
latest release, and so is the stream of an image from the link to it. So images in different streams
are provided with the same release only where one of them is in the stream of the latest release
and the other in the one that is taken for it. -/
theorem releaseStream_recovered (stream release : String) :
    (release ≠ "" → releaseName? (releaseStream release) = some release) ∧
    (releaseName? stream = some release →
      (releaseStream release = stream ↔ stream ≠ "stable-latest")) ∧
    (∀ tag, Link.ofImage ⟨stream, tag⟩ = .releaseImages release →
      (releaseStream release = stream ↔ stream ≠ "stable-latest")) ∧
    ∀ other tag tagToo, Link.ofImage ⟨stream, tag⟩ = .releaseImages release →
      Link.ofImage ⟨other, tagToo⟩ = .releaseImages release → stream ≠ other →
        release = "latest" ∧
          (stream = "stable" ∧ other = "stable-latest" ∨
            stream = "stable-latest" ∧ other = "stable") := by
  refine ⟨releaseName?_releaseStream, ?_, ?_, ?_⟩
  · intro found
    exact releaseStream_eq_iff (releaseName?_eq_some_iff.1 found).2
  · intro tag linked
    exact releaseStream_eq_iff (Link.ofImage_eq_releaseImages_iff.1 linked).2
  · intro other tag tagToo linked linkedToo differ
    have taken := (Link.ofImage_eq_releaseImages_iff.1 linked).2
    have takenToo := (Link.ofImage_eq_releaseImages_iff.1 linkedToo).2
    rcases taken with own | ⟨rfl, namesake⟩
    · rcases takenToo with ownToo | ⟨rfl, namesake⟩
      · exact absurd (own.trans ownToo.symm) differ
      · exact ⟨rfl, .inl ⟨own, namesake⟩⟩
    · rcases takenToo with own | ⟨_, namesakeToo⟩
      · exact ⟨rfl, .inr ⟨namesake, own⟩⟩
      · exact absurd (namesake.trans namesakeToo.symm) differ

/-- The stream of a release with a number leads to the release and back. -/
theorem releaseStream_recovered_numbered :
    releaseName? (releaseStream "4.10") = some "4.10" ∧
      Link.ofImage ⟨"stable-4.10", "cli"⟩ = .releaseImages "4.10" ∧
      releaseStream "4.10" = "stable-4.10" := by
  obtain ⟨found, _, back, _⟩ := releaseStream_recovered "stable-4.10" "4.10"
  have linked : Link.ofImage ⟨"stable-4.10", "cli"⟩ = .releaseImages "4.10" := by decide
  exact ⟨found (by decide), linked, (back "cli" linked).2 (by decide)⟩

/-- A stream that is called after the word for the latest release is taken for the stream of that
release, which is another one. An image in either is provided with the same release. -/
theorem not_recovered_namesake :
    releaseName? "stable-latest" = some "latest" ∧
      releaseStream "latest" ≠ "stable-latest" ∧
      Link.ofImage ⟨"stable-latest", "cli"⟩ = .releaseImages "latest" ∧
      Link.ofImage ⟨"stable", "cli"⟩ = .releaseImages "latest" := by
  decide

end Naming

end StagedTest
