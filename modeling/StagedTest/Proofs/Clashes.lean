import StagedTest.Proofs.Apart

/-!
# Tests that share a namespace

The objects of a test have names that are joined from free texts with a dash, so a name of one test
may be read as a name of another one. `Plan.RunsInto` lists the ways in which what a run replaces
by name alone, its shared secret and the pods of its steps, can have the name of something that
belongs to another test. The main statement is that these are all: where none of them applies, a run
leaves alone whatever belongs to the other test.
-/
namespace StagedTest

open Program

/-! ## Names with the same reading -/

namespace Naming

/-- A text that is another one followed by a dash and a rest, or the same, as lists. -/
theorem cut_of_append {longer shorter rest : List Char}
    (whole : longer ++ ['-'] = shorter ++ ['-'] ++ rest) :
    longer = shorter ∨ ∃ middle, longer = shorter ++ '-' :: middle ∧ rest = middle ++ ['-'] := by
  rcases List.eq_nil_or_concat rest with rfl | ⟨middle, last, rfl⟩
  · rw [List.append_nil] at whole
    exact .inl (List.append_cancel_right whole)
  · have ends : longer ++ ['-'] = (shorter ++ '-' :: middle) ++ [last] := by
      simpa using whole
    obtain ⟨front, back⟩ := List.append_inj' ends rfl
    obtain rfl : '-' = last := by simpa using back
    exact .inr ⟨middle, front, by simp⟩

/-- The pods of two tests with different names have the same name exactly if the name of one test
goes on, after a dash, where the name of the other one ends, and the step of the other one begins
with what is left. -/
theorem pod_eq_pod_iff {test other : String} (differ : test ≠ other) (step same : String) :
    pod test step = pod other same ↔
      (∃ middle, test = other ++ "-" ++ middle ∧ same = middle ++ "-" ++ step) ∨
        ∃ middle, other = test ++ "-" ++ middle ∧ step = middle ++ "-" ++ same := by
  -- One of two texts with the same joined name begins with the other one.
  have half : ∀ {test other step same : String} {rest : List Char}, test ≠ other →
      test.toList ++ ['-'] = other.toList ++ ['-'] ++ rest → same.toList = rest ++ step.toList →
      ∃ middle, test = other ++ "-" ++ middle ∧ same = middle ++ "-" ++ step := by
    intro test other step same rest differ longer begins
    rcases cut_of_append longer with equal | ⟨middle, names, rfl⟩
    · exact absurd (String.toList_inj.1 equal) differ
    · refine ⟨String.ofList middle, String.toList_inj.1 ?_, String.toList_inj.1 ?_⟩
      · simp [names]
      · simp [begins]
  constructor
  · intro joined
    have lists : test.toList ++ ['-'] ++ step.toList = other.toList ++ ['-'] ++ same.toList := by
      have chars := congrArg String.toList joined
      simpa [pod] using chars
    rcases List.append_eq_append_iff.1 lists with ⟨rest, longer, begins⟩ | ⟨rest, longer, begins⟩
    · exact .inr (half differ.symm longer begins)
    · exact .inl (half differ longer begins)
  · rintro (⟨middle, rfl, rfl⟩ | ⟨middle, rfl, rfl⟩) <;>
      simp [pod, String.append_assoc]

end Naming

/-! ## What belongs to a test -/

namespace Plan

/-- Objects that belong to a test: its pods, which carry its label, its shared secret, the secret of
its cluster profile, and the copies of secrets that its steps ask for. -/
inductive Owns (plan : Plan) : ObjectKey → Object → Prop
  /-- The pod of a step. -/
  | pod {step : Step} {object : Object} (ofTest : step ∈ plan.config.steps)
      (labelled : object.metadata.carries (Access.labels plan.test) = true) :
      Owns plan ⟨.pod, plan.ns, Naming.pod plan.test step.name⟩ object
  /-- The shared secret. -/
  | shared (object : Object) : Owns plan ⟨.secret, plan.ns, Naming.sharedSecret plan.test⟩ object
  /-- The secret of the cluster profile. -/
  | profile (declared : plan.config.clusterProfile.isSome) (object : Object) :
      Owns plan ⟨.secret, plan.ns, Naming.profileSecret plan.test⟩ object
  /-- The copy of a secret. -/
  | copy {credential : Credential} (asked : credential ∈ Provision.credentials plan.config)
      (object : Object) : Owns plan ⟨.secret, plan.ns, credential.mirrorName⟩ object

/-- What a run replaces by its name has the name of something that belongs to another test. -/
inductive RunsInto (plan other : Plan) : Prop
  /-- The name of the test goes on where that of the other one ends. -/
  | longer {step same : Step} {middle : String} (ofTest : step ∈ plan.config.steps)
      (ofOther : same ∈ other.config.steps) (test : plan.test = other.test ++ "-" ++ middle)
      (rest : same.name = middle ++ "-" ++ step.name)
  /-- The name of the other test goes on where that of the test ends. -/
  | shorter {step same : Step} {middle : String} (ofTest : step ∈ plan.config.steps)
      (ofOther : same ∈ other.config.steps) (test : other.test = plan.test ++ "-" ++ middle)
      (rest : step.name = middle ++ "-" ++ same.name)
  /-- The test has the name of the secret of the other one's cluster profile. -/
  | profile (declared : other.config.clusterProfile.isSome)
      (test : plan.test = other.test ++ "-cluster-profile")
  /-- The test has the name of the copy of a secret that the other one's steps ask for. -/
  | copy {credential : Credential} (asked : credential ∈ Provision.credentials other.config)
      (test : plan.test = credential.ns ++ "-" ++ credential.name)

variable {plan other : Plan}

/-- The pods of steps have different names unless one test runs into the other. -/
theorem RunsInto.of_pod (differ : plan.test ≠ other.test) {step same : Step}
    (ofTest : step ∈ plan.config.steps) (ofOther : same ∈ other.config.steps)
    (joined : Naming.pod plan.test step.name = Naming.pod other.test same.name) :
    plan.RunsInto other := by
  rcases (Naming.pod_eq_pod_iff differ _ _).1 joined with
    ⟨middle, test, rest⟩ | ⟨middle, test, rest⟩
  · exact .longer ofTest ofOther test rest
  · exact .shorter ofTest ofOther test rest

/-- The place of a run's shared secret is none of something that belongs to another test, unless the
run runs into that test. -/
theorem RunsInto.of_shared (differ : plan.test ≠ other.test) {object : Object}
    (owned : other.Owns plan.sharedKey object) : plan.RunsInto other := by
  generalize place : plan.sharedKey = key at owned
  have name : plan.test = key.name := congrArg (·.name) place
  cases owned with
  | pod => cases congrArg (·.kind) place
  | shared => exact absurd name differ
  | profile declared => exact .profile declared name
  | copy asked => exact .copy asked name

/-- What belongs to another test is not changed by anything that a run does, unless the run runs
into that test. -/
theorem Changes.spares {calledOff : Prop} (differ : plan.test ≠ other.test)
    (apart : ¬plan.RunsInto other) {key : ObjectKey} {object : Object} {after : Option Object}
    (owned : other.Owns key object) : ¬plan.Changes calledOff key (some object) after := by
  intro changes
  cases changes with
  | shared => exact apart (.of_shared differ owned)
  | @pod step ofTest =>
    generalize place : (⟨.pod, plan.ns, Naming.pod plan.test step.name⟩ : ObjectKey) = key at owned
    have name : Naming.pod plan.test step.name = key.name := congrArg (·.name) place
    cases owned with
    | pod ofOther => exact apart (.of_pod differ ofTest ofOther name)
    | shared | profile | copy => cases congrArg (·.kind) place
  | cleanedUp name off labelled =>
    have marked := ObjectMetadata.carries_labels.1 labelled
    generalize place : (⟨.pod, plan.ns, name⟩ : ObjectKey) = key at owned
    cases owned with
    | pod ofOther labelledToo =>
      rw [ObjectMetadata.carries_labels.1 labelledToo] at marked
      exact differ (Option.some.inj marked).symm
    | shared | profile | copy => cases congrArg (·.kind) place

/-- A test with one step. -/
def single (test step : String) : Plan where
  config :=
    { (default : TestConfiguration) with
      name := test
      test := [{ (default : Step) with name := step }] }
  build := default
  job := { ns := "ci", name := "nightly", owner := none }
  parameters := default

/-- Names of two tests with different names are the same only where one is read as the other: the
shared secrets have different names, the shared secret of one has the name of a secret of the other
only if the whole test is named so, and pods have the same name only if the name of one test goes on
where that of the other one ends. Unless it runs into the other test in one of these ways, no call
of a run deletes or replaces what belongs to that test, so all of it is there as it was. -/
theorem others_spared (differ : plan.test ≠ other.test) :
    ((∀ step same : String, Naming.pod plan.test step = Naming.pod other.test same ↔
        (∃ middle, plan.test = other.test ++ "-" ++ middle ∧ same = middle ++ "-" ++ step) ∨
          ∃ middle, other.test = plan.test ++ "-" ++ middle ∧ step = middle ++ "-" ++ same) ∧
      Naming.sharedSecret plan.test ≠ Naming.sharedSecret other.test ∧
      (Naming.sharedSecret plan.test = Naming.profileSecret other.test ↔
        plan.test = other.test ++ "-cluster-profile") ∧
      ∀ ns name, Naming.sharedSecret plan.test = Naming.mirroredCredential ns name ↔
        plan.test = ns ++ "-" ++ name) ∧
    (¬plan.RunsInto other → ∀ {progress : Progress} {ended : Progress × Except RunError Unit}
        {history rest : History Cluster} {start now : Store},
      (plan.run progress).Ends (history ++ rest) ended →
      Follows Store.Serves start history now →
        (∀ event ∈ history, ∀ before after, Store.Serves event.1 event.2 before after →
          ∀ key object, other.Owns key object → before.get? key = some object →
            after.get? key = some object) ∧
        ∀ key object, other.Owns key object → start.get? key = some object →
          now.get? key = some object) := by
  refine ⟨⟨Naming.pod_eq_pod_iff differ, differ, Iff.rfl, fun _ _ => Iff.rfl⟩, ?_⟩
  intro apart progress ended history rest start now ends follows
  have kept : ∀ event ∈ history, ∀ before after, Store.Serves event.1 event.2 before after →
      ∀ key object, other.Owns key object → before.get? key = some object →
        after.get? key = some object := by
    intro event member before after served key object owned there
    have makes := makes_run ends event (List.mem_append_left rest member)
    have changed : after.get? key = before.get? key ∨
        plan.Changes True key (before.get? key) (after.get? key) :=
      makes.changes served (fun _ _ _ => trivial) key
    rcases changed with same | changes
    · rw [same, there]
    · rw [there] at changes
      exact absurd changes (Changes.spares differ apart owned)
  refine ⟨kept, fun key object owned there => ?_⟩
  have still : ∀ event ∈ history, ∀ before after, Store.Serves event.1 event.2 before after →
      before.get? key = some object → after.get? key = some object :=
    fun event member before after served => kept event member before after served key object owned
  exact follows.invariant there still

/-- A pod of a test. -/
def leftOver (test : String) : Pod := { metadata := { labels := some (Access.labels test) } }

/-- A cluster in which the shared secret of a test and the pod of one of its steps are stored. -/
def occupied (test step : String) : Rehearsal where
  store := (Store.empty.put ⟨.secret, "ci", test⟩ (.secret {})).put
    ⟨.pod, "ci", Naming.pod test step⟩ (.pod (leftOver test))

/-- A run of one test leaves the shared secret and the pod of another one as they are. -/
theorem others_spared_single :
    let start := occupied "unit" "setup"
    let final := ((Plan.run (single "e2e" "setup") .initial).run Rehearsal.handler start).2.store
    final.get? ⟨.secret, "ci", "unit"⟩ = some (.secret {}) ∧
      final.get? ⟨.pod, "ci", "unit-setup"⟩ = some (.pod (leftOver "unit")) := by
  intro start final
  have differ : (single "e2e" "setup").test ≠ (single "unit" "setup").test := by decide
  have apart : ¬(single "e2e" "setup").RunsInto (single "unit" "setup") := by
    intro runsInto
    have first : ∀ {name rest : String}, name = "unit" ++ rest → name.toList.head? = some 'u' := by
      rintro name rest rfl
      simp
    have firstToo : ∀ {name rest : String}, name = "e2e" ++ rest →
        name.toList.head? = some 'e' := by
      rintro name rest rfl
      simp
    cases runsInto with
    | longer _ _ test => cases first (test.trans (String.append_assoc ..))
    | shorter _ _ test => cases firstToo (test.trans (String.append_assoc ..))
    | profile declared => cases declared
    | copy asked => cases asked
  have distinct : start.store.Distinct := (Store.distinct_empty.put _ _).put _ _
  have ends := Program.ends_run Rehearsal.handler (Plan.run (single "e2e" "setup") .initial) start
  rw [← List.append_nil ((Plan.run (single "e2e" "setup") .initial).trace Rehearsal.handler
    start)] at ends
  have follows := Rehearsal.follows_serves (Plan.run (single "e2e" "setup") .initial) start distinct
  have kept := ((others_spared differ).2 apart ends follows).2
  have ofTest : { (default : Step) with name := "setup" } ∈ (single "unit" "setup").config.steps :=
    List.mem_singleton_self _
  exact ⟨kept _ _ (.shared _) rfl, kept _ _ (.pod ofTest rfl) rfl⟩

/-- The pod of the step `aws-setup` of the test `e2e` has the name of the pod of the step `setup` of
the test `e2e-aws`, and a run of that test replaces it. -/
theorem not_spared_nested :
    let plan := single "e2e-aws" "setup"
    let other := single "e2e" "aws-setup"
    let key : ObjectKey := ⟨.pod, "ci", "e2e-aws-setup"⟩
    let start := occupied "e2e" "aws-setup"
    let final := ((Plan.run plan .initial).run Rehearsal.handler start).2.store
    plan.test ≠ other.test ∧ Naming.pod plan.test "setup" = Naming.pod other.test "aws-setup" ∧
      other.Owns key (.pod (leftOver "e2e")) ∧
      start.store.get? key = some (.pod (leftOver "e2e")) ∧
      final.get? key ≠ some (.pod (leftOver "e2e")) := by
  intro plan other key start final
  have ofOther : { (default : Step) with name := "aws-setup" } ∈ other.config.steps :=
    List.mem_singleton_self _
  refine ⟨by decide, by decide, .pod ofOther rfl, rfl, fun same => ?_⟩
  -- What stands there after the run carries the label of the test that ran.
  have replaced : (final.get? key).map (·.metadata.carries (Access.labels "e2e")) = some false :=
    rfl
  rw [same] at replaced
  cases replaced

end Plan

end StagedTest
