import StagedTest.Proofs.Attempts
import StagedTest.Provision

/-!
# Needs

Before its first step a run has needs: values from outside, secrets to read, objects to delete and
to create. They are met one after the other, and each says which failures do it no harm and whom it
blames for the others. The first need that is not met cuts the rest off. An attempt is said to meet
needs when that is all that can become of it, whatever answers it gets, with a rule for each way to
put attempts together.
-/
namespace StagedTest

open Program Provision

/-! ## Failures that do no harm -/

namespace ClientError

/-- The interface says that there is no such object. -/
def SaysMissing (error : ClientError) : Prop :=
  ∃ response, error.response? = some response ∧ response.code = 404

/-- The interface says that there is such an object already, by its code and in a word. -/
def SaysTaken (error : ClientError) : Prop :=
  ∃ response, error.response? = some response ∧ response.code = 409 ∧
    response.reason = "AlreadyExists"

/-- An answer has a certain code if the interface gave one that can be a code. -/
theorem statusCode?_eq_some_iff (error : ClientError) {code : Nat} (low : 100 ≤ code)
    (high : code ≤ 999) : error.statusCode? = some code ↔
      ∃ response, error.response? = some response ∧ response.code.toNat = code := by
  rw [statusCode?, Option.bind_eq_some_iff]
  refine exists_congr fun response => and_congr_right fun _ => ?_
  rw [ApiResponse.statusCode?]
  constructor
  · intro coded
    split at coded
    · exact Option.some.inj coded
    · cases coded
  · rintro rfl
    exact if_pos ⟨low, high⟩

/-- A failure counts as an object that is there already if the interface says so. -/
theorem kind_eq_alreadyExists_iff (error : ClientError) :
    error.kind = .alreadyExists ↔ error.SaysTaken := by
  have conflict : error.statusCode? = some 409 ↔
      ∃ response, error.response? = some response ∧ response.code.toNat = 409 :=
    error.statusCode?_eq_some_iff (by decide) (by decide)
  have taken : error.SaysTaken ↔
      error.statusCode? = some 409 ∧ error.reason? = some "AlreadyExists" := by
    rw [conflict, SaysTaken, reason?]
    constructor
    · rintro ⟨response, said, code, reason⟩
      exact ⟨⟨response, said, congrArg UInt16.toNat code⟩, by rw [said, ← reason]; rfl⟩
    · rintro ⟨⟨response, said, code⟩, reason⟩
      rw [said] at reason
      exact ⟨response, said, UInt16.toNat.inj code, Option.some.inj reason⟩
  rw [taken, kind]
  by_cases both : error.statusCode? = some 409 ∧ error.reason? = some "AlreadyExists"
  · rw [if_pos both]
    exact ⟨fun _ => both, fun _ => rfl⟩
  · rw [if_neg both]
    refine ⟨fun same => ?_, fun said => absurd said both⟩
    split at same <;> cases same

/-- A failure counts as an object that is not there if the interface says so. -/
theorem kind_eq_notFound_iff (error : ClientError) :
    error.kind = .notFound ↔ error.SaysMissing := by
  have missing : error.SaysMissing ↔ error.statusCode? = some 404 := by
    rw [error.statusCode?_eq_some_iff (by decide) (by decide)]
    refine exists_congr fun response => and_congr_right fun _ => ?_
    exact ⟨congrArg UInt16.toNat, fun code => UInt16.toNat.inj code⟩
  rw [missing, kind]
  split
  · rename_i conflict
    simp [conflict.1]
  · split <;> simp [*]

end ClientError

/-! ## Needs -/

/-- Something that has to be as it should before the first step runs. -/
inductive Need
  /-- Something that is known without asking for it. -/
  | check (verdict : Except RunError Unit)
  /-- A secret is read, and found to be a certain one. -/
  | read (ns name : String) (found : Secret) (blame : ClientError → RunError)
  /-- A secret is deleted, where certain failures do no harm. -/
  | delete (ns name : String) (harmless : ClientError → Prop) (blame : ClientError → RunError)
  /-- An object is created, where certain failures do no harm. -/
  | create (ns : String) (object : Object) (harmless : ClientError → Prop)
    (blame : ClientError → RunError)

/-- What was asked for. -/
def History.calls (history : History Cluster) : List ClusterCall := history.map Sigma.fst

/-- What was asked for in two parts was asked for in one and then in the other. -/
@[simp] theorem History.calls_append (early late : History Cluster) :
    History.calls (early ++ late) = History.calls early ++ History.calls late := List.map_append

namespace Need

/-- What a need asks for. -/
def call? : Need → Option ClusterCall
  | .check _ => none
  | .read ns name _ _ => some (.readSecret ns name)
  | .delete ns name _ _ => some (.deleteSecret ns name)
  | .create ns object _ _ => some (.create ns object)

/-- A need is met by what was asked for it. -/
inductive Met : Need → History Cluster → Prop
  /-- What is known is as it should be. -/
  | check : Met (.check (.ok ())) []
  /-- The secret is read. -/
  | read {ns name : String} {found : Secret} {blame : ClientError → RunError} :
      Met (.read ns name found blame) [⟨ClusterCall.readSecret ns name, .ok found⟩]
  /-- The secret is deleted, or fails to be without harm. -/
  | delete {ns name : String} {harmless : ClientError → Prop} {blame : ClientError → RunError}
      {answer : Except ClientError Unit}
      (fine : ∀ cause, answer = .error cause → harmless cause) :
      Met (.delete ns name harmless blame) [⟨ClusterCall.deleteSecret ns name, answer⟩]
  /-- The object is created, or fails to be without harm. -/
  | create {ns : String} {object : Object} {harmless : ClientError → Prop}
      {blame : ClientError → RunError} {answer : Except ClientError Unit}
      (fine : ∀ cause, answer = .error cause → harmless cause) :
      Met (.create ns object harmless blame) [⟨ClusterCall.create ns object, answer⟩]

/-- A need is not met after what was asked for it, and fails. -/
inductive Unmet : Need → History Cluster → RunError → Prop
  /-- What is known is not as it should be. -/
  | check {error : RunError} : Unmet (.check (.error error)) [] error
  /-- The secret cannot be read. -/
  | read {ns name : String} {found : Secret} {blame : ClientError → RunError}
      {cause : ClientError} :
      Unmet (.read ns name found blame) [⟨ClusterCall.readSecret ns name, .error cause⟩]
        (blame cause)
  /-- The secret cannot be deleted. -/
  | delete {ns name : String} {harmless : ClientError → Prop} {blame : ClientError → RunError}
      {cause : ClientError} (harm : ¬harmless cause) :
      Unmet (.delete ns name harmless blame) [⟨ClusterCall.deleteSecret ns name, .error cause⟩]
        (blame cause)
  /-- The object cannot be created. -/
  | create {ns : String} {object : Object} {harmless : ClientError → Prop}
      {blame : ClientError → RunError} {cause : ClientError} (harm : ¬harmless cause) :
      Unmet (.create ns object harmless blame) [⟨ClusterCall.create ns object, .error cause⟩]
        (blame cause)

/-- Needs are met one after the other. -/
inductive AllMet : List Need → History Cluster → Prop
  /-- Without needs nothing is asked for. -/
  | nil : AllMet [] []
  /-- The first need is met before the others. -/
  | cons {need : Need} {needs : List Need} {early late : History Cluster} (now : need.Met early)
      (later : AllMet needs late) : AllMet (need :: needs) (early ++ late)

/-- Needs are met one after the other up to one that is not met, and that one fails. -/
def CutOff (needs : List Need) (history : History Cluster) (error : RunError) : Prop :=
  ∃ met unmet rest early late, needs = met ++ unmet :: rest ∧ history = early ++ late ∧
    AllMet met early ∧ unmet.Unmet late error

variable {first second needs : List Need} {early late history : History Cluster}
  {need : Need} {error : RunError}

/-- A single need is met. -/
theorem AllMet.single (now : need.Met history) : AllMet [need] history := by
  have last := AllMet.cons now .nil
  rwa [List.append_nil] at last

/-- More needs are met after those that are met already. -/
theorem AllMet.append (head : AllMet first early) (tail : AllMet second late) :
    AllMet (first ++ second) (early ++ late) := by
  induction head with
  | nil => exact tail
  | cons now _ ih =>
    rw [List.append_assoc]
    exact .cons now ih

/-- A need that is not met is not met in whatever order the later ones would have come. -/
theorem CutOff.append (cut : CutOff first history error) (second : List Need) :
    CutOff (first ++ second) history error := by
  obtain ⟨met, unmet, rest, early, late, rfl, whole, all, one⟩ := cut
  exact ⟨met, unmet, rest ++ second, early, late, by simp, whole, all, one⟩

/-- A need is not met after others are. -/
theorem CutOff.after (head : AllMet first early) (cut : CutOff second late error) :
    CutOff (first ++ second) (early ++ late) error := by
  obtain ⟨met, unmet, rest, middle, last, rfl, rfl, all, one⟩ := cut
  exact ⟨first ++ met, unmet, rest, early ++ middle, last, by simp, by simp, head.append all, one⟩

/-- The first need is not met. -/
theorem CutOff.at_first (one : need.Unmet history error) (rest : List Need) :
    CutOff (need :: rest) history error :=
  ⟨[], need, rest, [], history, rfl, rfl, .nil, one⟩

/-- For a need that is met, exactly what it asks for is asked. -/
theorem Met.calls (met : need.Met history) : History.calls history = need.call?.toList := by
  cases met <;> rfl

/-- For a need that is not met, exactly what it asks for is asked. -/
theorem Unmet.calls (unmet : need.Unmet history error) :
    History.calls history = need.call?.toList := by
  cases unmet <;> rfl

/-- What needs ask for is what the first one asks for and then what the others do. -/
theorem filterMap_call? (need : Need) (needs : List Need) :
    (need :: needs).filterMap call? = need.call?.toList ++ needs.filterMap call? := by
  cases asked : need.call? <;> simp [asked]

/-- For needs that are met, exactly what they ask for is asked, in their order. -/
theorem AllMet.calls (all : AllMet needs history) :
    History.calls history = needs.filterMap call? := by
  induction all with
  | nil => rfl
  | cons now _ ih => rw [History.calls_append, now.calls, ih, filterMap_call?]

/-- What is asked for up to a need that is not met is the beginning of what all needs ask for. -/
theorem CutOff.calls (cut : CutOff needs history error) :
    History.calls history <+: needs.filterMap call? := by
  obtain ⟨met, unmet, rest, early, late, rfl, rfl, all, one⟩ := cut
  refine ⟨rest.filterMap call?, ?_⟩
  rw [History.calls_append, all.calls, one.calls, List.filterMap_append, filterMap_call?,
    List.append_assoc]

end Need

/-! ## Attempts that meet needs -/

namespace Need

/-- How an attempt to meet needs can come out. -/
inductive Outcome {α : Type} (needs : List Need) (history : History Cluster) :
    Except RunError α → Prop
  /-- All needs are met. -/
  | met (all : AllMet needs history) (value : α) : Outcome needs history (.ok value)
  /-- One of the needs is not met. -/
  | unmet {error : RunError} (cut : CutOff needs history error) :
      Outcome needs history (.error error)

variable {α β : Type}

/-- What comes out after needs that are met is what comes out in the end. -/
theorem Outcome.after {first second : List Need} {early late : History Cluster}
    {result : Except RunError α} (outcome : Outcome second late result)
    (head : AllMet first early) : Outcome (first ++ second) (early ++ late) result := by
  cases outcome with
  | met all value => exact .met (head.append all) value
  | unmet cut => exact .unmet (cut.after head)

/-- An attempt meets needs if it comes out as they say, whatever answers it gets. What the needs
are may depend on the answers, within what is possible. -/
def Meets (attempt : Attempt α) (possible : List Need → Prop) : Prop :=
  ∀ ⦃history result⦄, attempt.run.Ends history result →
    ∃ needs, possible needs ∧ Outcome needs history result

/-- Nothing left to do needs nothing. -/
theorem meets_pure (value : α) : Meets (pure value) (· = []) := by
  intro history result ends
  obtain ⟨rfl, rfl⟩ := Attempt.ends_pure_iff.1 ends
  exact ⟨[], rfl, .met .nil value⟩

/-- The needs of one attempt after the other follow each other. -/
theorem meets_bind {first : Attempt α} {second : α → Attempt β} {now later : List Need → Prop}
    (head : Meets first now) (tail : ∀ value, Meets (second value) later)
    (some : ∃ needs, later needs) :
    Meets (first >>= second) fun needs => ∃ early late, needs = early ++ late ∧ now early ∧
      later late := by
  intro history result ends
  rcases Attempt.ends_bind_iff.1 ends with ⟨error, failed, rfl⟩ |
    ⟨early, late, value, rfl, begun, ended⟩
  · obtain ⟨needs, fits, outcome⟩ := head failed
    obtain ⟨others, possible⟩ := some
    cases outcome with
    | unmet cut =>
      exact ⟨needs ++ others, ⟨needs, others, rfl, fits, possible⟩, .unmet (cut.append others)⟩
  · obtain ⟨needs, fits, outcome⟩ := head begun
    obtain ⟨others, possible, ending⟩ := tail value ended
    refine ⟨needs ++ others, ⟨needs, others, rfl, fits, possible⟩, ?_⟩
    cases outcome with
    | met all => exact ending.after all

/-- The needs of an attempt are among those that are possible more widely. -/
theorem Meets.weaken {attempt : Attempt α} {possible wider : List Need → Prop}
    (meets : Meets attempt possible) (more : ∀ needs, possible needs → wider needs) :
    Meets attempt wider := by
  intro history result ends
  obtain ⟨needs, fits, outcome⟩ := meets ends
  exact ⟨needs, more needs fits, outcome⟩

/-- An attempt that ends with a value of its own needs what comes before. -/
theorem meets_returning {first : Attempt α} {value : α → β} {possible : List Need → Prop}
    (head : Meets first possible) :
    Meets (first >>= fun result => pure (value result)) possible := by
  have nothing : ∃ needs : List Need, needs = [] := ⟨[], rfl⟩
  refine (meets_bind head (fun result => meets_pure (value result)) nothing).weaken ?_
  rintro _ ⟨early, _, rfl, fits, rfl⟩
  rwa [List.append_nil]

/-- A secret that is read is found to be what the answer says. -/
theorem meets_read (ns name : String) (blame : ClientError → RunError) :
    Meets (Attempt.orFail blame (Cluster.readSecret ns name))
      fun needs => ∃ found, needs = [.read ns name found blame] := by
  intro history result ends
  obtain ⟨answer, asked, rfl⟩ := Attempt.ends_orFail_iff.1 ends
  obtain rfl := ends_ask_iff.1 asked
  cases answer with
  | ok found => exact ⟨_, ⟨found, rfl⟩, .met (.single .read) found⟩
  | error cause => exact ⟨_, ⟨default, rfl⟩, .unmet (.at_first .read [])⟩

/-- What is tolerated of an answer does no harm, and anything else is passed on with its blame. -/
theorem ends_tolerating {ask : Program Cluster (Except ClientError Unit)}
    {kind : ClientError.Kind} {blame : ClientError → RunError} {history : History Cluster}
    {result : Except RunError (Option Unit)}
    (ends : (Attempt.orFail blame (ask.bind fun answer =>
      .done (ClientError.tolerate kind answer))).run.Ends history result) :
    ∃ answer, ask.Ends history answer ∧
      ((∀ cause, answer = .error cause → cause.kind = kind) ∧ (∃ value, result = .ok value) ∨
        ∃ cause, answer = .error cause ∧ cause.kind ≠ kind ∧ result = .error (blame cause)) := by
  obtain ⟨judged, asked, rfl⟩ := Attempt.ends_orFail_iff.1 ends
  obtain ⟨_, _, answer, rfl, answered, told⟩ := Program.ends_bind_iff.1 asked
  obtain ⟨rfl, rfl⟩ := ends_done_iff.1 told
  refine ⟨answer, by rwa [List.append_nil], ?_⟩
  cases answer with
  | ok value => exact .inl ⟨(fun _ wrong => by cases wrong), some value, rfl⟩
  | error cause =>
    by_cases fine : cause.kind = kind
    · refine .inl ⟨fun other same => Except.error.inj same ▸ fine, none, ?_⟩
      rw [ClientError.tolerate, if_pos fine]
      rfl
    · refine .inr ⟨cause, rfl, fine, ?_⟩
      rw [ClientError.tolerate, if_neg fine]
      rfl

/-- A secret is deleted unless the interface says that there is none. -/
theorem meets_delete (ns name : String) (blame : ClientError → RunError) :
    Meets (Attempt.orFail blame ((Cluster.deleteSecret ns name).bind fun answer =>
        .done (ClientError.tolerate .notFound answer)))
      (· = [.delete ns name ClientError.SaysMissing blame]) := by
  intro history result ends
  refine ⟨_, rfl, ?_⟩
  obtain ⟨answer, asked, outcome⟩ := ends_tolerating ends
  obtain rfl := ends_ask_iff.1 asked
  rcases outcome with ⟨fine, value, rfl⟩ | ⟨cause, rfl, harm, rfl⟩
  · have missing : ∀ cause, answer = .error cause → cause.SaysMissing :=
      fun cause failed => cause.kind_eq_notFound_iff.1 (fine cause failed)
    exact .met (.single (.delete missing)) value
  · have other : ¬cause.SaysMissing := fun said => harm (cause.kind_eq_notFound_iff.2 said)
    exact .unmet (.at_first (.delete other) [])

/-- An object is created unless the interface says that there is one. -/
theorem meets_createIfAbsent (blame : ClientError → RunError) (ns : String) (object : Object) :
    Meets (createIfAbsent blame ns object)
      (· = [.create ns object ClientError.SaysTaken blame]) := by
  have created : Meets (Attempt.orFail blame ((Cluster.create ns object).bind fun answer =>
      .done (ClientError.tolerate .alreadyExists answer)))
      (· = [.create ns object ClientError.SaysTaken blame]) := by
    intro history result ends
    refine ⟨_, rfl, ?_⟩
    obtain ⟨answer, asked, outcome⟩ := ends_tolerating ends
    obtain rfl := ends_ask_iff.1 asked
    rcases outcome with ⟨fine, value, rfl⟩ | ⟨cause, rfl, harm, rfl⟩
    · have taken : ∀ cause, answer = .error cause → cause.SaysTaken :=
        fun cause failed => cause.kind_eq_alreadyExists_iff.1 (fine cause failed)
      exact .met (.single (.create taken)) value
    · have other : ¬cause.SaysTaken :=
        fun said => harm (cause.kind_eq_alreadyExists_iff.2 said)
      exact .unmet (.at_first (.create other) [])
  exact meets_returning created

/-- An object is created, and any failure does harm. -/
theorem meets_create (blame : ClientError → RunError) (ns : String) (object : Object) :
    Meets (Attempt.orFail blame (Cluster.create ns object))
      (· = [.create ns object (fun _ => False) blame]) := by
  intro history result ends
  refine ⟨_, rfl, ?_⟩
  obtain ⟨answer, asked, rfl⟩ := Attempt.ends_orFail_iff.1 ends
  obtain rfl := ends_ask_iff.1 asked
  cases answer with
  | ok value => exact .met (.single (.create fun _ wrong => by cases wrong)) value
  | error cause => exact .unmet (.at_first (.create id) [])

/-! ## Checks -/

/-- Going on with a result needs what the result needs. -/
theorem meets_ofExcept {made : Except RunError α} {needs : List Need}
    (outcome : Outcome needs [] made) : Meets (Attempt.ofExcept made) (· = needs) := by
  intro history result ends
  obtain ⟨rfl, rfl⟩ := Attempt.ends_ofExcept_iff.1 ends
  exact ⟨needs, rfl, outcome⟩

/-- A result needs to be what it is. -/
theorem outcome_check (made : Except RunError α) :
    Outcome [.check (made.map fun _ => ())] [] made := by
  cases made with
  | ok value => exact .met (.single .check) value
  | error error => exact .unmet (.at_first .check [])

/-- The checks for one result after the other follow each other. -/
theorem Outcome.bind {made : Except RunError α} {next : α → Except RunError β}
    {now later : List Need} (head : Outcome now [] made)
    (tail : ∀ value, Outcome later [] (next value)) :
    Outcome (now ++ later) [] (made >>= next) := by
  cases head with
  | unmet cut => exact .unmet (cut.append later)
  | met all value => exact (tail value).after all

/-- A value from outside is needed. -/
def value (parameters : Parameters) (blame : UndefinedParameter → RunError) (name : String) :
    Need :=
  .check (((parameters.get name).mapError blame).map fun _ => ())

/-- The variables of several parameters need the value of each, in order. -/
theorem outcome_resolveAll (parameters : Parameters) (names : List String) :
    Outcome (names.map fun name => value parameters (.parameter name) name) []
      (SharedEnvironment.resolveAll parameters names) := by
  induction names with
  | nil => exact .met .nil []
  | cons name rest ih =>
    have single : Outcome [value parameters (.parameter name) name] []
        (SharedEnvironment.resolve parameters name) := by
      have checked := outcome_check (SharedEnvironment.resolve parameters name)
      have same : (SharedEnvironment.resolve parameters name).map (fun _ => ()) =
          ((parameters.get name).mapError (RunError.parameter name)).map fun _ => () := by
        rw [SharedEnvironment.resolve]
        cases parameters.get name <;> rfl
      rwa [same] at checked
    refine single.bind fun first => ?_
    have done : ∀ later : List EnvVar,
        Outcome [] [] (Except.ok (first :: later) : Except RunError (List EnvVar)) :=
      fun later => .met .nil (first :: later)
    have ending := ih.bind done
    rwa [List.append_nil] at ending

/-- The needs of an optional operator. -/
def ofOperator (parameters : Parameters) : List Need :=
  if parameters.has Variable.operatorIndex then
    [Variable.operatorIndex, Variable.operatorPackage, Variable.operatorChannel].map
      (value parameters .optionalOperator)
  else []

/-- The variables of an optional operator need the values that describe it. -/
theorem outcome_operator (parameters : Parameters) :
    Outcome (ofOperator parameters) [] (SharedEnvironment.operator parameters) := by
  have single : ∀ name, Outcome [value parameters .optionalOperator name] []
      (SharedEnvironment.operatorVariable parameters name) := by
    intro name
    have checked := outcome_check (SharedEnvironment.operatorVariable parameters name)
    have same : (SharedEnvironment.operatorVariable parameters name).map (fun _ => ()) =
        ((parameters.get name).mapError RunError.optionalOperator).map fun _ => () := by
      rw [SharedEnvironment.operatorVariable]
      cases parameters.get name <;> rfl
    rwa [same] at checked
  rw [ofOperator, SharedEnvironment.operator]
  split
  · refine (single _).bind fun index => (single _).bind fun package => ?_
    have done : ∀ channel : EnvVar, Outcome [] []
        (Except.ok ([index, package, channel] ++
          SharedEnvironment.optionalVariable parameters Variable.operatorInstallNamespace ++
          SharedEnvironment.optionalVariable parameters Variable.operatorTargetNamespaces) :
            Except RunError (List EnvVar)) := fun channel => .met .nil _
    exact (single _).bind done
  · exact .met .nil []

end Need

end StagedTest
