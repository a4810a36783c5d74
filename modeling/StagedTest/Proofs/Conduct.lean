import StagedTest.Proofs.Provisioning
import StagedTest.Proofs.References

/-!
# How a run conducts itself

Rules say which calls a program may make, as long as it gets answers that are possible, and
between which answers it makes no difference. `Program.Conforms` says that a program keeps to rules
at each of its calls. The main statement is that every run keeps to the rules of its plan
(`Plan.rules`): it reads its own sources, creates its own objects, hands over and watches the pods
of its own steps, and where it creates an object unless it is there, it goes on in the same way
whether it has created the object or has found it.
-/
namespace StagedTest

open Program

/-- What a program may ask for, which answers it may get, and which answers are as good as each
other. -/
structure Rules (I : Interface) where
  /-- The calls that may be made. -/
  allowed : I.Call → Prop
  /-- The answers that a call may get. -/
  possible : (asked : I.Call) → I.Answer asked → Prop
  /-- Answers to a call between which there is no difference. -/
  alike : (asked : I.Call) → I.Answer asked → I.Answer asked → Prop

namespace Program

variable {I : Interface} {α β : Type} {rules : Rules I}

/-- A program keeps to rules, and ends only with values of which something is ensured. -/
def Conforms (rules : Rules I) (ensured : α → Prop) : Program I α → Prop
  | .done value => ensured value
  | .call asked next =>
    rules.allowed asked ∧
      (∀ first second, rules.alike asked first second → next first = next second) ∧
      ∀ answer, rules.possible asked answer → (next answer).Conforms rules ensured

/-- A single call keeps to rules that allow it and tell all its answers apart. -/
theorem conforms_ask {asked : I.Call} {ensured : I.Answer asked → Prop}
    (may : rules.allowed asked)
    (apart : ∀ first second, rules.alike asked first second → first = second)
    (good : ∀ answer, rules.possible asked answer → ensured answer) :
    (Program.ask asked).Conforms rules ensured :=
  ⟨may, fun first second same => by rw [apart first second same], good⟩

/-- Of one program after the other, the second has to keep to the rules only after the values that
the first one ends with. -/
theorem Conforms.bind {ensured : α → Prop} {promised : β → Prop} {first : Program I α}
    {second : α → Program I β} (head : first.Conforms rules ensured)
    (tail : ∀ value, ensured value → (second value).Conforms rules promised) :
    (first.bind second).Conforms rules promised := by
  induction first with
  | done value => exact tail value head
  | call asked next ih =>
    obtain ⟨may, same, later⟩ := head
    refine ⟨may, fun one other alike => ?_,
      fun answer possible => ih answer (later answer possible)⟩
    exact congrArg (·.bind second) (same one other alike)

/-- As long as it gets answers that are possible, a program that keeps to rules makes only the
calls that they allow. -/
theorem Conforms.allowed {ensured : α → Prop} {program : Program I α} {history : History I}
    {value : α} (conforms : program.Conforms rules ensured) (ends : program.Ends history value)
    (possible : ∀ event ∈ history, rules.possible event.1 event.2) :
    ∀ event ∈ history, rules.allowed event.1 := by
  induction ends with
  | done value => simp
  | call answer later ih =>
    obtain ⟨may, same, rest⟩ := conforms
    obtain ⟨now, others⟩ := List.forall_mem_cons.1 possible
    exact List.forall_mem_cons.2 ⟨may, ih (rest answer now) others⟩

/-- Where every call has an answer, a program can come to an end. -/
theorem exists_ends (answers : ∀ asked, Nonempty (I.Answer asked)) (program : Program I α) :
    ∃ history value, program.Ends history value := by
  induction program with
  | done value => exact ⟨[], value, .done value⟩
  | call asked next ih =>
    obtain ⟨answer⟩ := answers asked
    obtain ⟨history, value, later⟩ := ih answer
    exact ⟨_, value, .call answer later⟩

/-- A program that makes only certain calls keeps to rules that allow them and tell all their
answers apart. -/
theorem Obeys.conforms {allowed : I.Call → Prop} {ensured : α → Prop} {program : Program I α}
    (obeys : program.Obeys allowed ensured) (answers : ∀ asked, Nonempty (I.Answer asked))
    (may : ∀ asked, allowed asked → rules.allowed asked)
    (apart : ∀ asked first second, allowed asked → ¬rules.alike asked first second) :
    program.Conforms rules ensured := by
  induction program with
  | done value => exact (obeys (.done value)).2
  | call asked next ih =>
    have now : allowed asked := by
      obtain ⟨history, value, ends⟩ := exists_ends answers (.call asked next)
      obtain ⟨answer, rest, rfl, later⟩ := ends_call_iff.1 ends
      exact (obeys ends).1 _ List.mem_cons_self
    refine ⟨may asked now, fun first second alike => absurd alike (apart asked first second now),
      fun answer _ => ih answer fun history value ends => ?_⟩
    obtain ⟨calls, good⟩ := obeys (.call answer ends)
    exact ⟨fun event member => calls event (List.mem_cons_of_mem _ member), good⟩

end Program

namespace Attempt

variable {α β : Type} {rules : Rules Cluster}

/-- An attempt keeps to rules, and goes well only with values of which something is ensured. -/
abbrev Conforms (rules : Rules Cluster) (ensured : α → Prop) (attempt : Attempt α) : Prop :=
  attempt.run.Conforms rules fun result => ∀ value, result = .ok value → ensured value

/-- Of one attempt after the other, the second has to keep to the rules only if the first one went
well. -/
theorem Conforms.bind {ensured : α → Prop} {promised : β → Prop} {first : Attempt α}
    {second : α → Attempt β} (head : first.Conforms rules ensured)
    (tail : ∀ value, ensured value → (second value).Conforms rules promised) :
    (first >>= second).Conforms rules promised := by
  rw [Conforms, ExceptT.run_bind]
  refine Program.Conforms.bind head fun result good => ?_
  cases result with
  | error error => exact fun value failed => by cases failed
  | ok value => exact tail value (good value rfl)

/-- An attempt with nothing left to do keeps to all rules. -/
theorem conforms_pure {ensured : α → Prop} {value : α} (good : ensured value) :
    (pure value : Attempt α).Conforms rules ensured := by
  rw [Conforms, ExceptT.run_pure]
  exact fun other same => by
    cases same
    exact good

/-- Going on with a result keeps to all rules. -/
theorem conforms_ofExcept (made : Except RunError α) :
    (ofExcept made).Conforms rules fun value => made = .ok value := by
  cases made with
  | ok value => exact conforms_pure rfl
  | error error => exact fun value failed => by cases failed

/-- Going on with an answer keeps to rules if the calls behind it do. -/
theorem conforms_orFail {ensured : α → Prop} {blame : ClientError → RunError}
    {program : Program Cluster (Except ClientError α)}
    (calls : program.Conforms rules fun answer => ∀ value, answer = .ok value → ensured value) :
    (orFail blame program).Conforms rules ensured := by
  refine Program.Conforms.bind calls fun answer good => ?_
  cases answer with
  | error error => exact fun value failed => by cases failed
  | ok value =>
    intro other same
    cases same
    exact good value rfl

end Attempt

/-! ## The rules of a run -/

namespace Plan

/-- What a run may ask for, given what is stored in the places of the secrets that it copies. -/
inductive Makes (plan : Plan) (given : String → String → Secret → Prop) : ClusterCall → Prop
  /-- The secret of the cluster profile is read. -/
  | profile : Makes plan given (.readSecret plan.ns (Naming.profileSecret plan.test))
  /-- The shared secret of an earlier run is deleted. -/
  | discard : Makes plan given (.deleteSecret plan.ns (Naming.sharedSecret plan.test))
  /-- The shared secret is created. -/
  | renew : Makes plan given (.create plan.ns plan.sharedSecret)
  /-- A secret that steps ask for is read. -/
  | source {credential : Credential}
      (asked : credential ∈ Provision.credentials plan.config) :
      Makes plan given (.readSecret credential.ns credential.name)
  /-- The copy of a secret that steps ask for is created. -/
  | copy {credential : Credential} {secret : Secret}
      (asked : credential ∈ Provision.credentials plan.config)
      (stored : given credential.ns credential.name secret) :
      Makes plan given
        (.create plan.ns (.secret (secret.mirrored plan.ns credential.mirrorName)))
  /-- The identity is created. -/
  | identity : Makes plan given
      (.create plan.ns (.serviceAccount (Access.serviceAccount plan.ns plan.test)))
  /-- The role is created. -/
  | role : Makes plan given (.create plan.ns (.role (Access.role plan.ns plan.test)))
  /-- The grant is created. -/
  | grant : Makes plan given (.create plan.ns (.roleBinding (Access.roleBinding plan.ns plan.test)))
  /-- An image is looked up. -/
  | image (image : ImageTag) : Makes plan given (.pullSpec plan.ns image)
  /-- The pod of a step is handed over. -/
  | submit {workload : Workload} (ofPlan : workload.plan = plan)
      (ofTest : workload.step ∈ plan.config.steps) : Makes plan given (.submitPod workload.pod)
  /-- The pod of a step is watched. -/
  | watch {step : Step} (token : Token) (ofTest : step ∈ plan.config.steps) :
      Makes plan given (.awaitPod token plan.ns (Naming.pod plan.test step.name))
  /-- A phase asks whether it is called off. -/
  | look (token : Token) : Makes plan given (.isCancelled token)
  /-- The pods of the test are deleted. -/
  | cleanUp : Makes plan given (.deletePods plan.ns (Access.labels plan.test))

/-- Whether an answer to a creation says that the object is there now. -/
def Stands (answer : Except ClientError Unit) : Prop :=
  ∃ value, ClientError.tolerate .alreadyExists answer = .ok value

/-- Answers that a run may get: a secret that is read is the one that is stored. -/
def Possible (given : String → String → Secret → Prop) :
    (asked : ClusterCall) → asked.Answer → Prop
  | .readSecret ns name, .ok secret => given ns name secret
  | _, _ => True

/-- Answers between which there is no difference for a run: of everything that it creates but the
shared secret and the pods, it has to know only that it is there. -/
def Alike (plan : Plan) : (asked : ClusterCall) → asked.Answer → asked.Answer → Prop
  | .create ns object, first, second =>
    object.kind ≠ .pod ∧ Store.keyOf ns object ≠ plan.sharedKey ∧ Stands first ∧ Stands second
  | _, _, _ => False

/-- The rules of a run. -/
def rules (plan : Plan) (given : String → String → Secret → Prop) : Rules Cluster :=
  ⟨plan.Makes given, Possible given, plan.Alike⟩

end Plan

variable {plan : Plan} {given : String → String → Secret → Prop}

/-! ## Provisioning keeps to the rules -/

/-- Reading a secret keeps to the rules. -/
theorem conforms_readSecret {ns name : String} {blame : ClientError → RunError}
    (may : plan.Makes given (.readSecret ns name)) :
    (Attempt.orFail blame (Cluster.readSecret ns name)).Conforms (plan.rules given)
      (given ns name) := by
  refine Attempt.conforms_orFail (conforms_ask may (fun _ _ alike => alike.elim) ?_)
  rintro answer stored secret rfl
  exact stored

namespace Provision

/-- Creating an object unless it is there keeps to the rules. -/
theorem conforms_createIfAbsent {blame : ClientError → RunError} {ns : String} {object : Object}
    (may : plan.Makes given (.create ns object)) :
    (createIfAbsent blame ns object).Conforms (plan.rules given) fun _ => True := by
  -- The answer is judged before it is passed on, so two that are as good as each other are followed
  -- by the same program only if all of this is looked at as one call.
  have whole : (createIfAbsent blame ns object).run = .call (I := Cluster) (.create ns object)
      fun answer => .done (((ClientError.tolerate .alreadyExists answer).mapError blame).map
        fun _ => ()) := by
    change Program.call _ _ = _
    congr 1
    funext answer
    cases judged : ClientError.tolerate .alreadyExists answer <;>
      simp [judged, Program.bind] <;> rfl
  rw [Attempt.Conforms, whole]
  refine ⟨may, ?_, fun answer _ value _ => trivial⟩
  rintro first second ⟨_, _, ⟨_, one⟩, ⟨_, other⟩⟩
  simp only [one, other]
  rfl

/-- Putting the shared environment together keeps to the rules. -/
theorem conforms_assemble (plan : Plan) (given : String → String → Secret → Prop) :
    (SharedEnvironment.assemble plan).Conforms (plan.rules given) fun _ => True := by
  refine (Attempt.conforms_ofExcept _).bind fun leases _ => ?_
  split
  · exact Attempt.conforms_pure trivial
  · refine (conforms_readSecret .profile).bind fun _ _ => ?_
    exact (Attempt.conforms_ofExcept _).bind fun _ _ => Attempt.conforms_pure trivial

/-- Replacing the shared secret keeps to the rules. -/
theorem conforms_resetSharedSecret (plan : Plan) (given : String → String → Secret → Prop) :
    (resetSharedSecret plan).Conforms (plan.rules given) fun _ => True := by
  have discarded : (Cluster.deleteSecret plan.ns (Naming.sharedSecret plan.test)).Conforms
      (plan.rules given) fun _ => True :=
    conforms_ask .discard (fun _ _ alike => alike.elim) fun _ _ => trivial
  have tolerated : ∀ blame, (Attempt.orFail blame ((Cluster.deleteSecret plan.ns
      (Naming.sharedSecret plan.test)).bind fun answer =>
        .done (ClientError.tolerate .notFound answer))).Conforms (plan.rules given)
      fun _ => True :=
    fun blame => Attempt.conforms_orFail (discarded.bind fun _ _ _ _ => trivial)
  refine (tolerated _).bind fun _ _ => Attempt.conforms_orFail ?_
  exact conforms_ask .renew (fun _ _ alike => absurd rfl alike.2.1) fun _ _ _ _ => trivial

/-- Reading secrets that steps ask for keeps to the rules, and gives the copies of what is stored
in their places. -/
theorem conforms_readAll {entries : List (String × Credential)}
    (asked : ∀ entry ∈ entries, entry.2 ∈ credentials plan.config ∧ entry.1 = entry.2.mirrorName) :
    (readAll plan.ns entries).Conforms (plan.rules given) fun copies =>
      ∀ copy ∈ copies, plan.Makes given (.create plan.ns (.secret copy.2)) := by
  induction entries with
  | nil => exact Attempt.conforms_pure (by simp)
  | cons entry rest ih =>
    obtain ⟨name, credential⟩ := entry
    obtain ⟨⟨listed, named⟩, others⟩ := List.forall_mem_cons.1 asked
    obtain rfl : name = credential.mirrorName := named
    refine (conforms_readSecret (.source listed)).bind fun secret stored =>
      (ih others).bind fun copies made => Attempt.conforms_pure ?_
    exact List.forall_mem_cons.2 ⟨.copy listed stored, made⟩

/-- Creating copies that may be created keeps to the rules. -/
theorem conforms_createAll {copies : List (String × Secret)}
    (may : ∀ copy ∈ copies, plan.Makes given (.create plan.ns (.secret copy.2))) :
    (createAll plan.ns copies).Conforms (plan.rules given) fun _ => True := by
  induction copies with
  | nil => exact Attempt.conforms_pure trivial
  | cons copy rest ih =>
    obtain ⟨own, others⟩ := List.forall_mem_cons.1 may
    exact (conforms_createIfAbsent own).bind fun _ _ => ih others

/-- Providing what the steps rely on keeps to the rules. -/
theorem conforms_all (plan : Plan) (given : String → String → Secret → Prop) :
    (all plan).Conforms (plan.rules given) fun _ => True := by
  have mirrors : (mirrorCredentials plan).Conforms (plan.rules given) fun _ => True := by
    refine (Attempt.conforms_ofExcept plan.references).bind fun references known => ?_
    refine (conforms_readAll fun entry member => ?_).bind fun copies made =>
      conforms_createAll made
    obtain ⟨asked, named⟩ := asked_of_mem_entries known member
    exact ⟨asked, named.symm⟩
  have access : (createAccess plan).Conforms (plan.rules given) fun _ => True :=
    (conforms_createIfAbsent .identity).bind fun _ _ => (conforms_createIfAbsent .role).bind
      fun _ _ => conforms_createIfAbsent .grant
  exact (conforms_assemble plan given).bind fun _ _ => (conforms_resetSharedSecret plan given).bind
    fun _ _ => mirrors.bind fun _ _ => access.bind fun _ _ => Attempt.conforms_pure trivial

end Provision

/-! ## Phases keep to the rules -/

/-- A phase makes only calls that its run may make. -/
theorem PhaseRun.Course.makes {token : Token} {shared : List EnvVar} {failedBefore : Bool}
    {phase : Phase} {history : History Cluster} {outcome : PhaseRun.Outcome}
    (course : PhaseRun.Course plan token shared failedBefore phase history outcome) :
    ∀ event ∈ history, plan.Makes given event.1 := by
  have looking : ∀ images answers, ∀ event ∈ Batch.lookupHistory plan.ns images answers,
      plan.Makes given event.1 := by
    intro images answers event member
    obtain ⟨lookup, _, rfl⟩ := List.mem_map.1 member
    exact .image lookup.1
  have workload : ∀ pod ∈ submissions history, ∃ workload : Workload, workload.plan = plan ∧
      workload.step ∈ plan.config.steps ∧ pod = workload.pod :=
    fun pod member => (conducted_course Iff.rfl course).workload member
  cases course with
  | unbuilt => exact looking _ _
  | @ran answers pods turns closing =>
    intro event member
    rcases List.mem_append.1 member with member | member
    · rcases List.mem_append.1 member with member | member
      · exact looking _ _ event member
      · obtain ⟨turn, listed, member⟩ := List.mem_flatMap.1 member
        obtain ⟨made, ofPlan, ofTest, same⟩ :=
          workload turn.pod (mem_submissions_wholeHistory plan token closing listed)
        obtain ⟨pod, outcome⟩ := turn
        obtain rfl : pod = made.pod := same
        have watched : plan.Makes given (.awaitPod token plan.ns made.pod.displayName) := by
          subst ofPlan
          exact .watch token ofTest
        cases outcome with
        | error error =>
          obtain rfl := List.mem_singleton.1 member
          exact .submit ofPlan ofTest
        | ok watch =>
          rcases List.mem_cons.1 member with rfl | member
          · exact .submit ofPlan ofTest
          · obtain rfl := List.mem_singleton.1 member
            exact watched
    · cases closing with
      | none =>
        obtain rfl := List.mem_singleton.1 member
        exact .look token
      | some deleted =>
        rcases List.mem_cons.1 member with rfl | member
        · exact .look token
        · obtain rfl := List.mem_singleton.1 member
          exact .cleanUp

/-- The phases of a run make only calls that the run may make. -/
theorem Plan.Stages.make {shared : List EnvVar} {progress after : Progress}
    {pre test post : History Cluster} {result : Except RunError Unit}
    (stages : plan.Stages shared progress pre test post after result) :
    ∀ event ∈ pre ++ test ++ post, plan.Makes given event.1 := by
  simp only [List.forall_mem_append]
  cases stages with
  | stopped prepared _ cleaned => exact ⟨⟨prepared.makes, by simp⟩, cleaned.makes⟩
  | tested prepared _ tried cleaned => exact ⟨⟨prepared.makes, tried.makes⟩, cleaned.makes⟩

/-- Every call has an answer. -/
theorem ClusterCall.nonempty_answer (asked : ClusterCall) : Nonempty asked.Answer := by
  cases asked with
  | create | deleteSecret | deletePods | submitPod => exact ⟨(.ok () : Except ClientError Unit)⟩
  | readSecret => exact ⟨(.ok {} : Except ClientError Secret)⟩
  | awaitPod => exact ⟨⟨[], .error (.cancelled none)⟩⟩
  | pullSpec => exact ⟨(.ok "" : Except ClientError String)⟩
  | isCancelled => exact ⟨false⟩

namespace Plan

/-- The phases of a run keep to its rules. -/
theorem conforms_runPhases (plan : Plan) (given : String → String → Secret → Prop)
    (shared : List EnvVar) (progress : Progress) :
    (plan.runPhases shared progress).Conforms (plan.rules given) fun _ => True := by
  have obeys : (plan.runPhases shared progress).Obeys
      (fun asked => plan.Makes given asked ∧ ClusterCall.isProvisioning asked = false)
      fun _ => True := by
    rintro history ⟨after, result⟩ ends
    obtain ⟨pre, test, post, rfl, stages⟩ := ends_runPhases ends
    exact ⟨fun event member =>
      ⟨stages.make event member, stages.provide_nothing event member⟩, trivial⟩
  refine obeys.conforms ClusterCall.nonempty_answer (fun _ may => may.1) ?_
  rintro asked first second ⟨_, other⟩ alike
  cases asked with
  | create ns object => exact alike.1 (by simpa [ClusterCall.isProvisioning] using other)
  | _ => exact alike.elim

/-- Every run keeps to its rules. -/
theorem conforms_run (plan : Plan) (given : String → String → Secret → Prop)
    (progress : Progress) : (plan.run progress).Conforms (plan.rules given) fun _ => True := by
  refine Program.Conforms.bind (Provision.conforms_all plan given) fun provided _ => ?_
  cases provided with
  | ok shared => exact plan.conforms_runPhases given shared progress.restarted
  | error error => exact trivial

end Plan

end StagedTest
