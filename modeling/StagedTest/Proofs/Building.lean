import StagedTest.Batch
import StagedTest.Proofs.History

/-!
# What building asks for and gives

Building the pods of a phase asks for images and for nothing else, and what becomes of a step is
decided by the step and the answers to its own lookups. `stepPod?` and `podsOf?` say which pods
come of given answers, all or nothing; the main statement is that a batch has exactly those pods,
and has errors exactly where there are none.
-/
namespace StagedTest

/-- The answers to lookups of images, in order. -/
def lookups (history : History Cluster) : List (Except ClientError String) :=
  history.filterMap fun
    | ⟨.pullSpec _ _, answer⟩ => some answer
    | _ => none

namespace Batch

open Program

/-- The images that a step asks for: those of its dependencies, unless one of its amounts is not
a quantity. -/
def images (step : Step) : List ImageTag :=
  if (invalidQuantity? step).isSome then [] else step.dependencies.map (·.image)

/-- The history of lookups of images that are answered one after the other. -/
def lookupHistory (ns : String) (images : List ImageTag)
    (answers : List (Except ClientError String)) : History Cluster :=
  (images.zip answers).map fun (image, answer) => ⟨ClusterCall.pullSpec ns image, answer⟩

/-- The variable of a dependency whose lookup was answered. -/
def dependencyResult (step : Step) :
    Dependency × Except ClientError String → Except RunError EnvVar
  | (dependency, .ok pullSpec) => .ok (.of dependency.variableName pullSpec)
  | (dependency, .error error) => .error (.imagePullSpec dependency.name step.name error)

/-- What becomes of a step when its lookups are answered in a certain way. -/
def stepResult (plan : Plan) (shared : List EnvVar) (step : Step)
    (answers : List (Except ClientError String)) : Except (List RunError) Pod :=
  match invalidQuantity? step with
  | some error => .error [error]
  | none =>
    let (parameters, missing) := divide (step.parameters.map (parameter plan.config step))
    let (dependencies, unknown) :=
      divide ((step.dependencies.zip answers).map (dependencyResult step))
    match missing ++ unknown with
    | [] => .ok (Workload.pod { plan, step, shared, parameters, dependencies })
    | errors => .error errors

/-- What becomes of steps, in order, when their lookups are answered one after the other. -/
def stepResults (plan : Plan) (shared : List EnvVar) :
    List Step → List (Except ClientError String) → List (Except (List RunError) Pod)
  | [], _ => []
  | step :: rest, answers =>
    stepResult plan shared step (answers.take (images step).length) ::
      stepResults plan shared rest (answers.drop (images step).length)

/-- The pod of a step: there is one when all amounts are quantities, all parameters have values
and all images are known. -/
def stepPod? (plan : Plan) (shared : List EnvVar) (step : Step)
    (answers : List (Except ClientError String)) : Option Pod :=
  if (invalidQuantity? step).isSome then none else do
    let parameters ← step.parameters.mapM fun parameter =>
      (parameterValue? plan.config parameter).map (.of parameter.name)
    let dependencies ← (step.dependencies.zip answers).mapM fun (dependency, answer) =>
      answer.toOption.map (.of dependency.variableName)
    return Workload.pod { plan, step, shared, parameters, dependencies }

/-- The pods of steps, in order, if every step has one. -/
def podsOf? (plan : Plan) (shared : List EnvVar) :
    List Step → List (Except ClientError String) → Option (List Pod)
  | [], _ => some []
  | step :: rest, answers => do
    let pod ← stepPod? plan shared step (answers.take (images step).length)
    let pods ← podsOf? plan shared rest (answers.drop (images step).length)
    return pod :: pods

/-! ## Dividing results -/

/-- Dividing results leaves no errors exactly when each of them is a value. -/
theorem divide_map {α β ε : Type} {make : α → Except ε β} {value? : α → Option β}
    (agree : ∀ item, (make item).toOption = value? item) (items : List α) :
    (∃ values, items.mapM value? = some values ∧ divide (items.map make) = (values, [])) ∨
      items.mapM value? = none ∧ (divide (items.map make)).2 ≠ [] := by
  induction items with
  | nil => exact .inl ⟨[], rfl, rfl⟩
  | cons item rest ih =>
    have same := agree item
    cases made : make item with
    | error error =>
      rw [made] at same
      have nothing : value? item = none := same.symm
      exact .inr ⟨by simp [List.mapM_cons, nothing], by simp [divide, made]⟩
    | ok value =>
      rw [made] at same
      have found : value? item = some value := same.symm
      rcases ih with ⟨values, all, divided⟩ | ⟨lacking, errors⟩
      · exact .inl ⟨value :: values, by simp [List.mapM_cons, found, all],
          by simp [divide, made, divided]⟩
      · exact .inr ⟨by simp [List.mapM_cons, found, lacking], by simpa [divide, made] using errors⟩

/-- The result of a parameter is its value where it has one. -/
theorem parameter_toOption (config : TestConfiguration) (step : Step) (item : StepParameter) :
    (parameter config step item).toOption =
      (parameterValue? config item).map (.of item.name) := by
  cases value : parameterValue? config item <;> simp [parameter, value, Except.toOption]

/-- The result of a dependency is its pull spec where its lookup found one. -/
theorem dependencyResult_toOption (step : Step)
    (item : Dependency × Except ClientError String) :
    (dependencyResult step item).toOption =
      item.2.toOption.map (.of item.1.variableName) := by
  obtain ⟨dependency, answer⟩ := item
  cases answer <;> rfl

/-- A step has a result with a pod exactly when it has a pod, and otherwise at least one thing is
wrong with it. -/
theorem stepResult_cases (plan : Plan) (shared : List EnvVar) (step : Step)
    (answers : List (Except ClientError String)) :
    (∃ pod, stepPod? plan shared step answers = some pod ∧
        stepResult plan shared step answers = .ok pod) ∨
      stepPod? plan shared step answers = none ∧
        ∃ error errors, stepResult plan shared step answers = .error (error :: errors) := by
  cases invalid : invalidQuantity? step with
  | some error => exact .inr ⟨by simp [stepPod?, invalid], error, [], by simp [stepResult, invalid]⟩
  | none =>
    have parameters := divide_map (parameter_toOption plan.config step) step.parameters
    have dependencies := divide_map (dependencyResult_toOption step)
      (step.dependencies.zip answers)
    simp only [stepPod?, stepResult, invalid, Option.isSome_none, Bool.false_eq_true, if_false]
    rcases parameters with ⟨values, all, divided⟩ | ⟨lacking, missing⟩
    · rcases dependencies with ⟨pullSpecs, known, split⟩ | ⟨lacking, unknown⟩
      · refine .inl ⟨Workload.pod ⟨plan, step, shared, values, pullSpecs⟩, ?_, ?_⟩
        · simp only [all, known, Option.bind_eq_bind, Option.bind_some, Option.pure_def]
        · simp only [divided, split, List.append_nil]
      · obtain ⟨error, errors, listed⟩ := List.exists_cons_of_ne_nil unknown
        refine .inr ⟨by simp only [all, lacking, Option.bind_eq_bind, Option.bind_some,
          Option.bind_none], error, errors, ?_⟩
        simp only [divided, listed, List.nil_append]
    · obtain ⟨error, errors, listed⟩ := List.exists_cons_of_ne_nil missing
      refine .inr ⟨by simp only [lacking, Option.bind_eq_bind, Option.bind_none], error,
        errors ++ (divide ((step.dependencies.zip answers).map (dependencyResult step))).2, ?_⟩
      simp only [listed, List.cons_append]

/-! ## What building asks for -/

/-- The lookups of a history of lookups are its answers. -/
theorem lookups_lookupHistory (ns : String) {images : List ImageTag}
    {answers : List (Except ClientError String)} (fits : answers.length = images.length) :
    lookups (lookupHistory ns images answers) = answers := by
  have answered : lookups (lookupHistory ns images answers) =
      (images.zip answers).map (·.2) := by
    rw [lookups, lookupHistory, List.filterMap_map, ← List.filterMap_eq_map]
    rfl
  rw [answered, List.map_snd_zip (Nat.le_of_eq fits)]

/-- The dependencies of a step are looked up in order, and each answer makes one result. -/
theorem ends_dependencies {ns : String} {step : Step} {asked : List Dependency}
    {history : History Cluster} {results : List (Except RunError EnvVar)}
    (ends : (dependencies ns step asked).Ends history results) :
    ∃ answers, answers.length = asked.length ∧
      history = lookupHistory ns (asked.map (·.image)) answers ∧
      results = (asked.zip answers).map (dependencyResult step) := by
  induction asked generalizing history results with
  | nil =>
    obtain ⟨rfl, rfl⟩ := ends_done_iff.1 ends
    exact ⟨[], rfl, rfl, rfl⟩
  | cons dependency rest ih =>
    simp only [dependencies, bind_eq, pure_eq, ends_bind_iff, ends_done_iff] at ends
    obtain ⟨_, _, answer, rfl, first, _, _, later, rfl, others, rfl, rfl⟩ := ends
    obtain rfl := ends_ask_iff.1 first
    obtain ⟨answers, fits, rfl, rfl⟩ := ih others
    refine ⟨answer :: answers, by simp [fits], by simp [lookupHistory], ?_⟩
    cases answer <;> simp [dependencyResult]

/-- Building the pod of a step looks up the step's images, and the answers decide what becomes of
the step. -/
theorem ends_buildPod {plan : Plan} {shared : List EnvVar} {step : Step}
    {history : History Cluster} {result : Except (List RunError) Pod}
    (ends : (buildPod plan shared step).Ends history result) :
    ∃ answers, answers.length = (images step).length ∧
      history = lookupHistory plan.ns (images step) answers ∧
      result = stepResult plan shared step answers := by
  rw [buildPod] at ends
  split at ends
  · rename_i error invalid
    obtain ⟨rfl, rfl⟩ := ends_done_iff.1 ends
    refine ⟨[], ?_, ?_, ?_⟩ <;> simp [images, lookupHistory, stepResult, invalid]
  · rename_i valid
    simp only [bind_eq, pure_eq, ends_bind_iff, ends_done_iff] at ends
    obtain ⟨_, _, results, rfl, asked, rfl, rfl⟩ := ends
    obtain ⟨answers, fits, rfl, rfl⟩ := ends_dependencies asked
    refine ⟨answers, by simp [images, valid, fits], by simp [images, valid], ?_⟩
    symm
    rw [stepResult]
    split
    · rename_i error invalid
      rw [valid] at invalid
      cases invalid
    · rfl

/-- Histories of lookups follow each other. -/
theorem lookupHistory_append (ns : String) {first second : List ImageTag}
    {early late : List (Except ClientError String)} (fits : early.length = first.length) :
    lookupHistory ns first early ++ lookupHistory ns second late =
      lookupHistory ns (first ++ second) (early ++ late) := by
  rw [lookupHistory, lookupHistory, lookupHistory, ← List.map_append,
    List.zip_append fits.symm]

/-- Building pods looks up the images of one step after the other, and every step becomes what
its own answers make of it. -/
theorem ends_build {plan : Plan} {shared : List EnvVar} {steps : List Step}
    {history : History Cluster} {batch : Batch}
    (ends : (build plan shared steps).Ends history batch) :
    ∃ answers, answers.length = (steps.flatMap images).length ∧
      history = lookupHistory plan.ns (steps.flatMap images) answers ∧
      batch = (stepResults plan shared steps answers).foldr add {} := by
  -- Each step takes as many answers as it has images, and leaves the others to the steps after it.
  induction steps generalizing history batch with
  | nil =>
    obtain ⟨rfl, rfl⟩ := ends_done_iff.1 ends
    exact ⟨[], rfl, rfl, rfl⟩
  | cons step rest ih =>
    simp only [build, bind_eq, pure_eq, ends_bind_iff, ends_done_iff] at ends
    obtain ⟨_, _, result, rfl, first, _, _, others, rfl, later, rfl, rfl⟩ := ends
    obtain ⟨own, fits, rfl, rfl⟩ := ends_buildPod first
    obtain ⟨answers, same, rfl, rfl⟩ := ih later
    refine ⟨own ++ answers, by simp [fits, same], ?_, ?_⟩
    · rw [List.append_nil, List.flatMap_cons, lookupHistory_append plan.ns fits]
    · simp [stepResults, ← fits]

/-! ## What a batch holds -/

/-- Results make a batch of the pods of all steps, or one with errors. -/
theorem foldr_stepResults (plan : Plan) (shared : List EnvVar) (steps : List Step)
    (answers : List (Except ClientError String)) :
    (∃ pods, podsOf? plan shared steps answers = some pods ∧
        (stepResults plan shared steps answers).foldr add {} = { pods }) ∨
      podsOf? plan shared steps answers = none ∧
        ((stepResults plan shared steps answers).foldr add {}).errors ≠ [] := by
  induction steps generalizing answers with
  | nil => exact .inl ⟨[], rfl, rfl⟩
  | cons step rest ih =>
    have later := ih (answers.drop (images step).length)
    simp only [podsOf?, stepResults, List.foldr_cons]
    rcases stepResult_cases plan shared step (answers.take (images step).length) with
      ⟨pod, found, built⟩ | ⟨lacking, error, errors, failed⟩
    · rcases later with ⟨pods, all, made⟩ | ⟨missing, wrong⟩
      · exact .inl ⟨pod :: pods, by simp [found, all], by simp [built, made, add]⟩
      · exact .inr ⟨by simp [found, missing], by simpa [built, add] using wrong⟩
    · exact .inr ⟨by simp [lacking], by simp [failed, add]⟩

end Batch

end StagedTest
