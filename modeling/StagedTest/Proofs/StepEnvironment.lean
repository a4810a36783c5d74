import StagedTest.Proofs.Coverage
import StagedTest.Proofs.Ingredients
import StagedTest.Proofs.StepYields

/-!
# The environment that a step finds

The environment of a step's container lists variables from many sources one after the other, and
names that tests and steps choose may be in it more than once. Of several entries with one name the
last one counts. The main statement says from which source that entry comes, for every name.
-/
namespace StagedTest

open Program

/-- The environment of a container. -/
def Container.variables (container : Container) : List EnvVar := container.env.getD []

/-! ## The entry that counts -/

namespace EnvVar

/-- The entry that counts of those with a name, which is the last one. -/
def effective? (name : String) (entries : List EnvVar) : Option EnvVar :=
  entries.reverse.find? (·.name == name)

/-- The entry that counts is that of the later entries, or else that of the earlier ones. -/
theorem effective?_append (name : String) (first second : List EnvVar) :
    effective? name (first ++ second) =
      (effective? name second).or (effective? name first) := by
  rw [effective?, List.reverse_append, List.find?_append]
  rfl

/-- No entry counts exactly if none has the name. -/
theorem effective?_eq_none_iff {name : String} {entries : List EnvVar} :
    effective? name entries = none ↔ name ∉ entries.map (·.name) := by
  simp [effective?]

/-- Of entries that are made one by one, that of the last item with the name counts. -/
theorem effective?_map {α : Type} (key value : α → String) (items : List α) (name : String) :
    effective? name (items.map fun item => .of (key item) (value item)) =
      ((items.reverse.find? (key · == name)).map value).map (.of name) := by
  rw [effective?, ← List.map_reverse, List.find?_map, Option.map_map]
  change (items.reverse.find? (key · == name)).map _ = _
  cases found : items.reverse.find? (key · == name) with
  | none => rfl
  | some item =>
    have named := List.find?_some found
    have same : key item = name := eq_of_beq named
    rw [Option.map_some, Option.map_some, same]
    rfl

/-- Where each item has a value, that of the last item with the name counts. -/
theorem effective?_filterMap {α : Type} (key : α → String) (value? : α → Option String)
    {items : List α} (valued : ∀ item ∈ items, value? item ≠ none) (name : String) :
    effective? name (items.filterMap fun item => (value? item).map (.of (key item))) =
      ((items.reverse.find? (key · == name)).bind value?).map (.of name) := by
  have present : ∀ item ∈ items, value? item = some ((value? item).getD "") := fun item member => by
    obtain ⟨value, has⟩ := Option.ne_none_iff_exists'.1 (valued item member)
    rw [has]
    rfl
  have listed : (items.filterMap fun item => (value? item).map (EnvVar.of (key item))) =
      items.map fun item => EnvVar.of (key item) ((value? item).getD "") := by
    refine List.filterMap_eq_map_iff_forall_eq_some.2 fun item member => ?_
    rw [present item member]
    rfl
  rw [listed, effective?_map]
  cases found : items.reverse.find? (key · == name) with
  | none => rfl
  | some item =>
    have member : item ∈ items := List.mem_reverse.1 (List.mem_of_find?_eq_some found)
    rw [Option.map_some, Option.bind_some, present item member]
    rfl

end EnvVar

/-! ## Where the entries come from -/

/-- The value that a cluster profile gives a variable. -/
def ClusterProfile.value? (profile : ClusterProfile) (name : String) : Option String :=
  if name = "CLUSTER_TYPE" then some profile.clusterType
  else if name = "CLUSTER_PROFILE_DIR" then some Path.profile
  else if name = "KUBECONFIG" then some Path.kubeconfig
  else if name = "KUBEADMIN_PASSWORD_FILE" then some Path.adminPassword
  else none

/-- The value that a plan gives a variable that says where a step runs. -/
def Plan.identityValue? (plan : Plan) (name : String) : Option String :=
  if name = "NAMESPACE" then some plan.ns
  else if name = "JOB_NAME_SAFE" then some (Naming.safeJobName plan.test)
  else if name = "JOB_NAME_HASH" then some plan.job.identifier
  else none

namespace Step

/-- The pull spec of the last dependency that a step keeps in a variable. -/
def pullSpec? (step : Step) (pullSpecs : List String) (name : String) : Option String :=
  ((step.dependencies.zip pullSpecs).reverse.find? (·.1.variableName == name)).map (·.2)

/-- The value of the last parameter of a name: the step's own, or else the test's, or else the one
that the parameter comes with. -/
def parameterValue? (config : TestConfiguration) (step : Step) (name : String) : Option String :=
  (step.parameters.reverse.find? (·.name == name)).bind fun parameter =>
    parameter.value <|> config.environment.get? parameter.name <|> parameter.default

/-- The value of a variable from the sources that count before the shared environment. -/
def ownValue? (config : TestConfiguration) (pullSpecs : List String) (step : Step)
    (name : String) : Option String :=
  (if name = "SHARED_DIR" then some Path.sharedDirectory else none) <|>
    (if name = "CLI_DIR" then step.cli.map fun _ => Path.cli else none) <|>
    config.clusterProfile.bind (·.value? name) <|>
    step.pullSpec? pullSpecs name <|>
    step.parameterValue? config name

/-- The value of a variable from the sources that count after the shared environment. -/
def givenValue? (plan : Plan) (step : Step) (name : String) : Option String :=
  plan.identityValue? name <|>
    if name = "ARTIFACT_DIR" then step.artifactDirectory.map fun _ => Path.artifacts else none

/-- The entry of a variable from the first source that has one. -/
def entry? (plan : Plan) (shared : List EnvVar) (pullSpecs : List String) (step : Step)
    (name : String) : Option EnvVar :=
  (step.ownValue? plan.config pullSpecs name).map (.of name) <|>
    EnvVar.effective? name shared <|>
    (step.givenValue? plan name).map (.of name)

end Step

namespace Workload

open EnvVar

/-- The variables of a cluster profile have the values that it gives them. -/
theorem effective?_profileVariables (profile : ClusterProfile) (name : String) :
    effective? name (profileVariables profile) = (profile.value? name).map (.of name) := by
  rw [ClusterProfile.value?]
  split_ifs with type directory config password
  · subst type
    rfl
  · subst directory
    rfl
  · subst config
    rfl
  · subst password
    rfl
  · have unlisted : name ∉
        ["CLUSTER_TYPE", "CLUSTER_PROFILE_DIR", "KUBECONFIG", "KUBEADMIN_PASSWORD_FILE"] := by
      simp [type, directory, config, password]
    exact effective?_eq_none_iff.2 unlisted

/-- The variables that say where a step runs have the values that the plan gives them. -/
theorem effective?_identity (plan : Plan) (name : String) :
    effective? name (identity plan) = (plan.identityValue? name).map (.of name) := by
  rw [Plan.identityValue?]
  split_ifs with ns job hash
  · subst ns
    rfl
  · subst job
    rfl
  · subst hash
    rfl
  · have unlisted : name ∉ ["NAMESPACE", "JOB_NAME_SAFE", "JOB_NAME_HASH"] := by
      simp [ns, job, hash]
    exact effective?_eq_none_iff.2 unlisted

/-- A single variable counts under its name, if it is there. -/
theorem effective?_optional {α : Type} (part : Option α) (own value name : String) :
    effective? name (part.toList.map fun _ => .of own value) =
      (if name = own then part.map fun _ => value else none).map (.of name) := by
  rw [effective?_map (fun _ => own) fun _ => value]
  by_cases same : name = own
  · subst same
    cases part <;> simp
  · have other : (own == name) = false := beq_false_of_ne (Ne.symm same)
    cases part <;> simp [same, other]

/-- The entry of a variable that counts for a step comes from the first source that has one. -/
theorem effective?_environment {plan : Plan} (shared : List EnvVar) {step : Step}
    (pullSpecs : List String)
    (valued : ∀ parameter ∈ step.parameters,
      Batch.parameterValue? plan.config parameter ≠ none) (name : String) :
    effective? name
        (environment
          { plan, step, shared
            parameters := Batch.parameterVariables plan.config step
            dependencies := Batch.dependencyVariables step pullSpecs }) =
      step.entry? plan shared pullSpecs name := by
  have directory : effective? name [.of Variable.sharedDirectory Path.sharedDirectory] =
      (if name = "SHARED_DIR" then some Path.sharedDirectory else none).map (.of name) :=
    effective?_optional (some ()) Variable.sharedDirectory Path.sharedDirectory name
  have tool := effective?_optional step.cli Variable.cliDirectory Path.cli name
  have profile : effective? name (plan.config.clusterProfile.toList.flatMap profileVariables) =
      (plan.config.clusterProfile.bind (·.value? name)).map (.of name) := by
    cases plan.config.clusterProfile with
    | none => rfl
    | some profile =>
      rw [Option.toList_some, List.flatMap_singleton]
      exact effective?_profileVariables profile name
  have dependencies : effective? name (Batch.dependencyVariables step pullSpecs) =
      (step.pullSpec? pullSpecs name).map (.of name) :=
    effective?_map (fun item : Dependency × String => item.1.variableName) (·.2) _ name
  have parameters : effective? name (Batch.parameterVariables plan.config step) =
      (step.parameterValue? plan.config name).map (.of name) :=
    effective?_filterMap StepParameter.name _ valued name
  have artifacts :=
    effective?_optional step.artifactDirectory Variable.artifactDirectory Path.artifacts name
  -- The last part of the list counts first.
  simp only [environment, effective?_append, directory, tool, profile, dependencies, parameters,
    effective?_identity, artifacts]
  simp only [Step.entry?, Step.ownValue?, Step.givenValue?, Option.orElse_eq_orElse,
    Option.orElse_eq_or, Option.map_or, Option.or_assoc]
  rfl

end Workload

/-! ## The shared environment -/

namespace SharedEnvironment

/-- The variables of an optional operator, in order. -/
def operatorNames (parameters : Parameters) : List String :=
  if parameters.has "OO_INDEX" then
    ["OO_INDEX", "OO_PACKAGE", "OO_CHANNEL"] ++
      ["OO_INSTALL_NAMESPACE", "OO_TARGET_NAMESPACES"].filter parameters.has
  else []

/-- The variables that all steps of a test share, in order: what was leased, and for a test with a
cluster profile what comes with it and what describes an optional operator. -/
def names (plan : Plan) : List String :=
  plan.config.leases.map (·.variableName) ++
    if plan.config.clusterProfile.isSome then
      ["RELEASE_IMAGE_LATEST", "LEASED_RESOURCE", "IMAGE_FORMAT"] ++ operatorNames plan.parameters
    else []

/-- Entries are variables with their values from outside. -/
def FromOutside (parameters : Parameters) (names : List String) (entries : List EnvVar) : Prop :=
  (names.map fun name => (parameters.get? name).map (.of name)) = entries.map some

variable {parameters : Parameters}

/-- Entries follow each other like their names. -/
theorem FromOutside.append {first second : List String} {early late : List EnvVar}
    (head : FromOutside parameters first early) (tail : FromOutside parameters second late) :
    FromOutside parameters (first ++ second) (early ++ late) := by
  rw [FromOutside, List.map_append, List.map_append, head, tail]

/-- The variables that an ingredient adds if it does not fail. -/
def Ingredient.names (parameters : Parameters) : Ingredient → List String
  | .required _ name => [name]
  | .optional name => [name].filter parameters.has
  | .profileSecret => []

/-- The shared variables are those that the ingredients add. -/
theorem names_eq_flatMap (plan : Plan) :
    names plan = (Ingredient.ofTest plan).flatMap (·.names plan.parameters) := by
  have leases : plan.config.leases.map (·.variableName) =
      (Ingredient.ofLeases plan).flatMap (·.names plan.parameters) := by
    rw [Ingredient.ofLeases, List.flatMap_map]
    exact List.map_eq_flatMap
  have operator : operatorNames plan.parameters =
      (Ingredient.ofOperator plan.parameters).flatMap (·.names plan.parameters) := by
    rw [operatorNames, Ingredient.ofOperator]
    split
    · have passed : ["OO_INSTALL_NAMESPACE", "OO_TARGET_NAMESPACES"].filter plan.parameters.has =
          ["OO_INSTALL_NAMESPACE"].filter plan.parameters.has ++
            ["OO_TARGET_NAMESPACES"].filter plan.parameters.has :=
        List.filter_append ["OO_INSTALL_NAMESPACE"] ["OO_TARGET_NAMESPACES"]
      rw [passed]
      simp [Ingredient.names]
    · rfl
  rw [names, Ingredient.ofTest, List.flatMap_append, leases]
  congr 1
  split
  · rw [operator]
    rfl
  · rfl

/-- What an ingredient adds that does not fail has its value from outside. -/
theorem fromOutside_added {plan : Plan} {answer : Except ClientError Secret} {item : Ingredient}
    (fine : item.failure? plan answer = none) :
    FromOutside plan.parameters (item.names plan.parameters)
      (item.added? plan.parameters).toList := by
  cases item with
  | required blame name =>
    obtain ⟨value, found⟩ := Option.isSome_iff_exists.1 (failure?_required_iff.1 fine)
    simp [FromOutside, Ingredient.names, Ingredient.added?, found]
  | optional name =>
    rw [FromOutside, Ingredient.names, Ingredient.added?]
    cases found : plan.parameters.get? name <;> simp [Parameters.has, found]
  | profileSecret => rfl

/-- What ingredients come to has its values from outside. -/
theorem fromOutside_gather {plan : Plan} {answer : Except ClientError Secret}
    {items : List Ingredient} {entries : List EnvVar}
    (gathered : gather plan answer items = .ok entries) :
    FromOutside plan.parameters (items.flatMap (·.names plan.parameters)) entries := by
  induction items generalizing entries with
  | nil =>
    obtain rfl := Except.ok.inj gathered
    rfl
  | cons item items ih =>
    rw [gather_cons] at gathered
    cases failed : item.failure? plan answer with
    | some error =>
      rw [failed] at gathered
      cases gathered
    | none =>
      rw [failed] at gathered
      cases rest : gather plan answer items with
      | error error =>
        rw [rest] at gathered
        cases gathered
      | ok others =>
        rw [rest] at gathered
        obtain rfl := Except.ok.inj gathered
        exact (fromOutside_added failed).append (ih rest)

/-- The variables that all steps of a test share have their values from outside. -/
theorem fromOutside_assemble {plan : Plan} {history : History Cluster} {shared : List EnvVar}
    (assembled : (assemble plan).run.Ends history (.ok shared)) :
    FromOutside plan.parameters (names plan) shared := by
  obtain ⟨answer, gathered⟩ := exists_gather_of_ends assembled
  rw [names_eq_flatMap]
  exact fromOutside_gather gathered.symm

end SharedEnvironment

/-! ## Pods that are built -/

/-- Of the entries of a variable in the environment of a pod that is built for a step, the one that
counts comes from the first source that has one, and where no source has one there is none. The
pull specs are what was looked up while the pod was built; and the shared environment that a test
puts together holds what was leased, then what comes with the cluster profile, and then what
describes an optional operator. -/
theorem Batch.effective_of_buildPod {plan : Plan} {shared : List EnvVar} {step : Step}
    {history : History Cluster} {pod : Pod}
    (built : (buildPod plan shared step).Ends history (.ok pod)) :
    ∃ container pullSpecs, pod.working = [container] ∧ container.name = "test" ∧
      pullSpecs.length = step.dependencies.length ∧
      history = lookupHistory plan.ns (step.dependencies.map (·.image)) (pullSpecs.map .ok) ∧
      (∀ name,
        EnvVar.effective? name container.variables = step.entry? plan shared pullSpecs name ∧
          (step.entry? plan shared pullSpecs name = none →
            name ∉ container.variables.map (·.name))) ∧
      ∀ early, (SharedEnvironment.assemble plan).run.Ends early (.ok shared) →
        SharedEnvironment.FromOutside plan.parameters (SharedEnvironment.names plan) shared := by
  obtain ⟨pullSpecs, answered, rfl, valued, rfl⟩ := pod_of_buildPod built
  refine ⟨_, pullSpecs, rfl, rfl, answered, rfl, fun name => ?_, fun early assembled => ?_⟩
  · have counts := Workload.effective?_environment shared pullSpecs valued name
    exact ⟨counts, fun none => EnvVar.effective?_eq_none_iff.1 (counts.trans none)⟩
  · exact SharedEnvironment.fromOutside_assemble assembled

/-- A step whose parameters are called like other variables and like each other. -/
def Step.clashing : Step :=
  { Step.prepare with
    parameters :=
      [ { name := "SHARED_DIR", default := some "mine", value := none }
      , { name := "COLOUR", default := some "red", value := none }
      , { name := "COLOUR", default := some "blue", value := none } ] }

/-- Where names are in use, the shared directory counts before a parameter, the last parameter
before the others and before the shared environment, and the shared environment before the
namespace. -/
theorem Batch.effective_clashing :
    ∃ pod container,
      ((buildPod .small [.of "NAMESPACE" "leased", .of "COLOUR" "green"] .clashing).run
        Rehearsal.handler (.small [])).1 = .ok pod ∧ pod.working = [container] ∧
      EnvVar.effective? "SHARED_DIR" container.variables =
        some (.of "SHARED_DIR" Path.sharedDirectory) ∧
      EnvVar.effective? "COLOUR" container.variables = some (.of "COLOUR" "blue") ∧
      EnvVar.effective? "NAMESPACE" container.variables = some (.of "NAMESPACE" "leased") ∧
      "ARTIFACT_DIR" ∉ container.variables.map (·.name) := by
  obtain ⟨container, pullSpecs, working, _, _, _, counts, _⟩ :=
    effective_of_buildPod (ends_run Rehearsal.handler
      (buildPod .small [.of "NAMESPACE" "leased", .of "COLOUR" "green"] .clashing) (.small []))
  exact ⟨_, container, rfl, working, (counts _).1, (counts _).1, (counts _).1, (counts _).2 rfl⟩

end StagedTest
