import StagedTest.Provision

/-!
# Secrets with the same copy

The copy of a secret has a name that is made of the name of its namespace and its own, so that two
different secrets may have copies of the same name. The main statement says how the secrets that
steps ask for come to be listed by the names of their copies: each name leads to the first one that
asks for it, unless there is such a conflict, and then the first conflict is reported.
-/
namespace StagedTest

/-! ## Conflicts -/

namespace Credential

/-- Two that ask for the same secret. -/
def Same (first second : Credential) : Prop := first.ns = second.ns ∧ first.name = second.name

instance (first second : Credential) : Decidable (first.Same second) :=
  inferInstanceAs (Decidable (_ ∧ _))

/-- Two that ask for different secrets whose copies have the same name. -/
def Conflicts (first second : Credential) : Prop :=
  first.mirrorName = second.mirrorName ∧ ¬first.Same second

/-- Some of the secrets that are asked for are in conflict. -/
def Conflicting (asked : List Credential) : Prop :=
  ∃ first ∈ asked, ∃ second ∈ asked, first.Conflicts second

/-- The first one that is asked for of those with a copy of a certain name. -/
def first? (asked : List Credential) (name : String) : Option Credential :=
  asked.find? fun credential => credential.mirrorName = name

/-- What is found first is asked for and has a copy of that name. -/
theorem mem_of_first? {asked : List Credential} {name : String} {credential : Credential}
    (found : first? asked name = some credential) :
    credential ∈ asked ∧ credential.mirrorName = name :=
  ⟨List.mem_of_find?_eq_some found, by simpa using List.find?_some found⟩

/-- Nothing with a copy of that name is asked for if none is found. -/
theorem first?_eq_none_iff {asked : List Credential} {name : String} :
    first? asked name = none ↔ ∀ credential ∈ asked, credential.mirrorName ≠ name := by
  simp [first?]

/-- One with a copy of a new name is found by that name. -/
theorem first?_concat_of_none {asked : List Credential} {later : Credential}
    (new : first? asked later.mirrorName = none) (name : String) :
    first? (asked ++ [later]) name =
      if later.mirrorName = name then some later else first? asked name := by
  rw [first?, List.find?_append, List.find?_singleton]
  by_cases named : later.mirrorName = name
  · subst named
    rw [first?] at new
    simp [new]
  · simp [first?, named]

/-- One with a copy of a known name is not found by any name. -/
theorem first?_concat_of_some {asked : List Credential} {later first : Credential}
    (known : first? asked later.mirrorName = some first) (name : String) :
    first? (asked ++ [later]) name = first? asked name := by
  rw [first?, List.find?_append, List.find?_singleton]
  by_cases named : later.mirrorName = name
  · subst named
    rw [first?] at known ⊢
    simp [known]
  · simp [first?, named]

/-- Where there is no conflict, two that have the same copy ask for the same secret. -/
theorem mirrorName_eq_iff {asked : List Credential} (clear : ¬Conflicting asked)
    {first second : Credential} (early : first ∈ asked) (late : second ∈ asked) :
    first.mirrorName = second.mirrorName ↔ first.Same second := by
  constructor
  · intro named
    rcases Classical.em (first.Same second) with same | differ
    · exact same
    · exact absurd ⟨first, early, second, late, named, differ⟩ clear
  · rintro ⟨ns, name⟩
    rw [mirrorName, mirrorName, ns, name]

/-- Where there is no conflict, the first one with a copy of a name asks for the same secret as all
others with it. -/
theorem same_of_first? {asked : List Credential} {first credential : Credential}
    (clear : ¬Conflicting asked) (found : first? asked credential.mirrorName = some first)
    (member : credential ∈ asked) : first.Same credential := by
  obtain ⟨earlier, named⟩ := mem_of_first? found
  exact (mirrorName_eq_iff clear earlier member).1 named

/-- One more conflicts with those before it only if it conflicts with the first one that has the
same copy. -/
theorem clear_concat {before : List Credential} {credential : Credential}
    (clear : ¬Conflicting before)
    (same : ∀ first, first? before credential.mirrorName = some first → first.Same credential) :
    ¬Conflicting (before ++ [credential]) := by
  -- All with that copy ask for the same secret.
  have alike : ∀ other ∈ before, other.mirrorName = credential.mirrorName →
      other.Same credential := by
    intro other member named
    cases found : first? before credential.mirrorName with
    | none => exact absurd named (first?_eq_none_iff.1 found other member)
    | some first =>
      obtain ⟨ns, name⟩ := same first found
      obtain ⟨ns', name'⟩ := same_of_first? clear (named ▸ found) member
      exact ⟨ns'.symm.trans ns, name'.symm.trans name⟩
  rintro ⟨first, early, second, late, named, differ⟩
  rcases List.mem_append.1 early with known | new <;>
    rcases List.mem_append.1 late with known' | new'
  · exact clear ⟨first, known, second, known', named, differ⟩
  · obtain rfl := List.mem_singleton.1 new'
    exact differ (alike first known named)
  · obtain rfl := List.mem_singleton.1 new
    obtain ⟨ns, name⟩ := alike second known' named.symm
    exact differ ⟨ns.symm, name.symm⟩
  · obtain rfl := List.mem_singleton.1 new
    obtain rfl := List.mem_singleton.1 new'
    exact differ ⟨rfl, rfl⟩

end Credential

/-! ## Listing what is asked for -/

namespace Provision

open Credential

/-- The results of listing the secrets that are asked for. -/
inductive Listed (asked : List Credential) : Except RunError (StringMap Credential) → Prop
  /-- There is no conflict, and each name is listed with the first one that is asked for. -/
  | all {known : StringMap Credential} (lists : ∀ name, known.get? name = first? asked name)
      (clear : ¬Conflicting asked) : Listed asked (.ok known)
  /-- The first one that is in conflict with an earlier one is named together with the first one
  that has the same copy. -/
  | collision {early late : List Credential} {credential first : Credential}
      (cut : asked = early ++ credential :: late) (clear : ¬Conflicting early)
      (found : first? early credential.mirrorName = some first)
      (conflict : first.Conflicts credential) :
      Listed asked
        (.error (.mirrorNameCollision credential.mirrorName first.source credential.source))

/-- Listing goes on until there is a conflict. -/
theorem listed_references_append {known : StringMap Credential} {before : List Credential}
    (asked : List Credential) (lists : ∀ name, known.get? name = first? before name)
    (clear : ¬Conflicting before) : Listed (before ++ asked) (references known asked) := by
  induction asked generalizing known before with
  | nil =>
    rw [List.append_nil]
    exact .all lists clear
  | cons credential rest ih =>
    rw [references]
    cases found : known.get? credential.mirrorName with
    | none =>
      have new : first? before credential.mirrorName = none := (lists _).symm.trans found
      have longer : ∀ name, (known.insert credential.mirrorName credential).get? name =
          first? (before ++ [credential]) name := fun name => by
        rw [first?_concat_of_none new, ← lists, StringMap.get?_insert]
      have clear := clear_concat clear fun first earlier => by
        rw [new] at earlier
        cases earlier
      simpa using ih longer clear
    | some first =>
      have earlier : first? before credential.mirrorName = some first := (lists _).symm.trans found
      dsimp only
      split
      · rename_i same
        have longer : ∀ name, known.get? name = first? (before ++ [credential]) name :=
          fun name => (lists name).trans (first?_concat_of_some earlier name).symm
        have clear := clear_concat clear fun other known => by
          rw [earlier] at known
          exact Option.some.inj known ▸ same
        simpa using ih longer clear
      · rename_i differ
        exact .collision rfl clear earlier ⟨(mem_of_first? earlier).2, differ⟩

/-- Listing all secrets that are asked for ends as it has to. -/
theorem listed_all (asked : List Credential) : Listed asked (references ∅ asked) := by
  have nothing : ∀ name, (∅ : StringMap Credential).get? name = first? [] name := fun _ => rfl
  exact listed_references_append asked nothing (by simp [Conflicting])

/-- The namespace of a secret and its name may run together. -/
example : references ∅ [⟨"ns-a", "name", "/a"⟩, ⟨"ns", "a-name", "/b"⟩] =
    .error (.mirrorNameCollision "ns-a-name" "ns-a/name" "ns/a-name") := rfl

/-- What can be listed is free of conflicts. -/
theorem not_conflicting_of_listed {asked : List Credential} {known : StringMap Credential}
    (listed : references ∅ asked = .ok known) : ¬Conflicting asked := by
  have outcome := listed_all asked
  rw [listed] at outcome
  cases outcome with
  | all _ clear => exact clear

/-- What is asked for is listed by the name of its copy. -/
theorem mem_entries_of_asked {asked : List Credential} {known : StringMap Credential}
    {credential : Credential} (found : references ∅ asked = .ok known)
    (member : credential ∈ asked) :
    ∃ first, (credential.mirrorName, first) ∈ known.entries ∧ first.Same credential := by
  have outcome := listed_all asked
  rw [found] at outcome
  cases outcome with
  | all lists clear =>
    cases earlier : first? asked credential.mirrorName with
    | none => exact absurd rfl (first?_eq_none_iff.1 earlier credential member)
    | some first =>
      exact ⟨first, known.mem_entries_iff.2 ((lists _).trans earlier),
        same_of_first? clear earlier member⟩

/-- What is listed is asked for, and is listed by the name of its copy. -/
theorem asked_of_mem_entries {asked : List Credential} {known : StringMap Credential}
    {name : String} {credential : Credential} (found : references ∅ asked = .ok known)
    (listed : (name, credential) ∈ known.entries) :
    credential ∈ asked ∧ credential.mirrorName = name := by
  have outcome := listed_all asked
  rw [found] at outcome
  cases outcome with
  | all lists clear => exact mem_of_first? ((lists _).symm.trans (known.mem_entries_iff.1 listed))

end Provision

end StagedTest
