import Mathlib.Data.List.Basic
import StagedTest.Proofs.Building
import StagedTest.Proofs.ByteOrder

/-!
# What each step adds to a batch

Every step that is not skipped adds its pod to a batch, or everything that is wrong with it.
`Batch.Yields` says which, for one step with the answers to its own lookups, and leaves no choice.
The main statement is that a batch, whatever answers the lookups, is what its steps add one after
the other, and that nothing else is looked up.
-/
namespace StagedTest

namespace Batch

open Program

/-! ## Amounts -/

/-- All amounts are quantities. -/
def AllValid (amounts : StringMap String) : Prop :=
  ∀ resource amount, amounts.get? resource = some amount → Quantity.isValid amount = true

/-- An amount is the first one that is not a quantity, by the bytes of the names of resources. -/
structure FirstInvalid (amounts : StringMap String) (resource amount : String) : Prop where
  /-- The resource has this amount. -/
  listed : amounts.get? resource = some amount
  /-- The amount is not a quantity. -/
  invalid : Quantity.isValid amount = false
  /-- The amounts before it are quantities. -/
  first : ∀ other before, amounts.get? other = some before →
    Text.bytes other < Text.bytes resource → Quantity.isValid before = true

/-- An invalid amount keeps amounts from all being valid. -/
theorem FirstInvalid.not_allValid {amounts : StringMap String} {resource amount : String}
    (wrong : FirstInvalid amounts resource amount) : ¬AllValid amounts := by
  intro valid
  have fine := valid resource amount wrong.listed
  rw [wrong.invalid] at fine
  cases fine

/-- There is only one first amount that is not a quantity. -/
theorem FirstInvalid.unique {amounts : StringMap String} {resource amount other another : String}
    (one : FirstInvalid amounts resource amount) (two : FirstInvalid amounts other another) :
    resource = other ∧ amount = another := by
  have notBefore : ∀ {resource amount other another : String},
      FirstInvalid amounts resource amount → FirstInvalid amounts other another →
        ¬resource < other := by
    intro resource amount other another one two before
    have fine := two.first resource amount one.listed (Text.bytes_lt before)
    rw [one.invalid] at fine
    cases fine
  have same : resource = other :=
    String.le_antisymm (String.not_lt.1 (notBefore two one)) (String.not_lt.1 (notBefore one two))
  subst same
  exact ⟨rfl, Option.some.inj (one.listed.symm.trans two.listed)⟩

/-- Amounts without a first one that is not a quantity are quantities. -/
theorem allValid_of_firstInvalid? {amounts : StringMap String}
    (none : Quantity.firstInvalid? amounts = none) : AllValid amounts := by
  intro resource amount listed
  have fine := List.find?_eq_none.1 none _ (amounts.mem_entries_iff.2 listed)
  simpa using fine

/-- The first amount that is found not to be a quantity is the first one by the bytes of names. -/
theorem firstInvalid_of_firstInvalid? {amounts : StringMap String} {resource amount : String}
    (found : Quantity.firstInvalid? amounts = some (resource, amount)) :
    FirstInvalid amounts resource amount := by
  obtain ⟨wrong, before, after, split, valid⟩ := List.find?_eq_some_iff_append.1 found
  have member : (resource, amount) ∈ amounts.entries := List.mem_of_find?_eq_some found
  refine ⟨amounts.mem_entries_iff.1 member, by simpa using wrong,
    fun other early listed below => ?_⟩
  -- Entries are listed by the bytes of their keys, so those below the found one stand before it.
  have place := amounts.mem_entries_iff.2 listed
  have sorted := amounts.sorted
  rw [split] at place sorted
  have notAbove : ¬resource < other := fun above =>
    absurd below (List.lt_asymm (Text.bytes_lt above))
  rcases List.mem_append.1 place with earlier | later
  · simpa using valid _ earlier
  · rcases List.mem_cons.1 later with here | later
    · cases here
      exact absurd below (List.lt_irrefl _)
    · exact absurd ((List.pairwise_cons.1 (List.pairwise_append.1 sorted).2.1).1 _ later) notAbove

/-- An amount of a step is not a quantity, which is then the first such one of its requests or else
of its limits, or all of them are quantities. -/
theorem invalidQuantity?_cases (step : Step) :
    (∃ resource amount, FirstInvalid step.resources.requests resource amount ∧
        invalidQuantity? step = some (.invalidQuantity step.name resource amount)) ∨
      (AllValid step.resources.requests ∧
        ∃ resource amount, FirstInvalid step.resources.limits resource amount ∧
          invalidQuantity? step = some (.invalidQuantity step.name resource amount)) ∨
      AllValid step.resources.requests ∧ AllValid step.resources.limits ∧
        invalidQuantity? step = none := by
  rw [invalidQuantity?]
  cases requests : Quantity.firstInvalid? step.resources.requests with
  | some found => exact .inl ⟨_, _, firstInvalid_of_firstInvalid? requests, rfl⟩
  | none =>
    have valid := allValid_of_firstInvalid? requests
    cases limits : Quantity.firstInvalid? step.resources.limits with
    | some found =>
      exact .inr (.inl ⟨valid, _, _, firstInvalid_of_firstInvalid? limits, rfl⟩)
    | none => exact .inr (.inr ⟨valid, allValid_of_firstInvalid? limits, rfl⟩)

/-- A step with an amount that is not a quantity asks for no images. -/
theorem images_of_invalid {step : Step} {error : RunError}
    (invalid : invalidQuantity? step = some error) : images step = [] := by
  rw [images, invalid]
  rfl

/-- Any other step asks for the images of its dependencies. -/
theorem images_of_valid {step : Step} (valid : invalidQuantity? step = none) :
    images step = step.dependencies.map (·.image) := by
  rw [images, valid]
  rfl

/-! ## Complaints and variables of a step -/

/-- What is wrong with the parameters of a step: each one without a value. -/
def missing (config : TestConfiguration) (step : Step) : List RunError :=
  step.parameters.filterMap fun parameter =>
    match parameterValue? config parameter with
    | some _ => none
    | none => some (.missingParameter step.name parameter.name)

/-- What is wrong with the dependencies of a step: each one whose lookup failed. -/
def unknown (step : Step) (answers : List (Except ClientError String)) : List RunError :=
  (step.dependencies.zip answers).filterMap fun
    | (_, .ok _) => none
    | (dependency, .error error) => some (.imagePullSpec dependency.name step.name error)

/-- The variables of a step's parameters. -/
def parameterVariables (config : TestConfiguration) (step : Step) : List EnvVar :=
  step.parameters.filterMap fun parameter =>
    (parameterValue? config parameter).map (.of parameter.name)

/-- The variables of a step's dependencies. -/
def dependencyVariables (step : Step) (pullSpecs : List String) : List EnvVar :=
  (step.dependencies.zip pullSpecs).map fun (dependency, pullSpec) =>
    .of dependency.variableName pullSpec

/-- What a step adds to a batch when its lookups are answered in a certain way. -/
inductive Yields (plan : Plan) (shared : List EnvVar) (step : Step) :
    List (Except ClientError String) → Batch → Prop
  /-- A request that is not a quantity is all that is reported, and nothing is looked up. -/
  | request {resource amount : String}
      (first : FirstInvalid step.resources.requests resource amount) :
      Yields plan shared step [] { errors := [.invalidQuantity step.name resource amount] }
  /-- Where all requests are quantities, so is a limit that is not one. -/
  | limit {resource amount : String} (requests : AllValid step.resources.requests)
      (first : FirstInvalid step.resources.limits resource amount) :
      Yields plan shared step [] { errors := [.invalidQuantity step.name resource amount] }
  /-- Each parameter without a value and then each failed lookup is reported. -/
  | incomplete {answers : List (Except ClientError String)}
      (requests : AllValid step.resources.requests) (limits : AllValid step.resources.limits)
      (answered : answers.length = step.dependencies.length)
      (wrong : (∃ parameter ∈ step.parameters, parameterValue? plan.config parameter = none) ∨
        ∃ error, .error error ∈ answers) :
      Yields plan shared step answers { errors := missing plan.config step ++ unknown step answers }
  /-- A step with nothing wrong has a pod. -/
  | complete {pullSpecs : List String}
      (requests : AllValid step.resources.requests) (limits : AllValid step.resources.limits)
      (answered : pullSpecs.length = step.dependencies.length)
      (valued : ∀ parameter ∈ step.parameters, parameterValue? plan.config parameter ≠ none) :
      Yields plan shared step (pullSpecs.map .ok)
        { pods :=
            [Workload.pod
              { plan, step, shared
                parameters := parameterVariables plan.config step
                dependencies := dependencyVariables step pullSpecs }] }

/-- A step with certain answers adds one thing only. -/
theorem Yields.unique {plan : Plan} {shared : List EnvVar} {step : Step}
    {answers : List (Except ClientError String)} {first second : Batch}
    (one : Yields plan shared step answers first) (two : Yields plan shared step answers second) :
    first = second := by
  generalize same : answers = others at two
  -- The amounts tell the first two cases from the others, and the parameters and answers tell those
  -- from each other.
  cases one with
  | request found =>
    cases two with
    | request other =>
      obtain ⟨rfl, rfl⟩ := found.unique other
      rfl
    | limit requests | incomplete requests | complete requests =>
      exact absurd requests found.not_allValid
  | limit requests found =>
    cases two with
    | request other => exact absurd requests other.not_allValid
    | limit _ other =>
      obtain ⟨rfl, rfl⟩ := found.unique other
      rfl
    | incomplete _ limits | complete _ limits => exact absurd limits found.not_allValid
  | incomplete requests limits _ wrong =>
    cases two with
    | request other => exact absurd requests other.not_allValid
    | limit _ other => exact absurd limits other.not_allValid
    | incomplete => rw [same]
    | complete _ _ _ valued =>
      rcases wrong with ⟨parameter, declared, lacking⟩ | ⟨error, failed⟩
      · exact absurd lacking (valued parameter declared)
      · rw [same] at failed
        simp at failed
  | complete requests limits _ valued =>
    cases two with
    | request other => exact absurd requests other.not_allValid
    | limit _ other => exact absurd limits other.not_allValid
    | incomplete _ _ _ wrong =>
      rcases wrong with ⟨parameter, declared, lacking⟩ | ⟨error, failed⟩
      · exact absurd lacking (valued parameter declared)
      · rw [← same] at failed
        simp at failed
    | complete =>
      rw [List.map_injective_iff.2 (fun _ _ equal => Except.ok.inj equal) same]

/-! ## Results of steps -/

/-- Dividing results leaves the values in order. -/
theorem divide_fst {α ε : Type} (results : List (Except ε α)) :
    (divide results).1 = results.filterMap fun
      | .ok value => some value
      | .error _ => none := by
  induction results with
  | nil => rfl
  | cons result rest ih =>
    cases result with
    | ok value => exact congrArg (value :: ·) ih
    | error error => exact ih

/-- Dividing results leaves the errors in order. -/
theorem divide_snd {α ε : Type} (results : List (Except ε α)) :
    (divide results).2 = results.filterMap fun
      | .ok _ => none
      | .error error => some error := by
  induction results with
  | nil => rfl
  | cons result rest ih =>
    cases result with
    | ok value => exact ih
    | error error => exact congrArg (error :: ·) ih

/-- The results of a step's parameters are divided into variables and complaints. -/
theorem divide_parameters (config : TestConfiguration) (step : Step) :
    divide (step.parameters.map (parameter config step)) =
      (parameterVariables config step, missing config step) := by
  refine Prod.ext ?_ ?_
  · rw [divide_fst, List.filterMap_map]
    refine List.filterMap_congr fun item _ => ?_
    rw [Function.comp_apply, parameter]
    cases parameterValue? config item <;> rfl
  · rw [divide_snd, List.filterMap_map]
    refine List.filterMap_congr fun item _ => ?_
    rw [Function.comp_apply, parameter]
    cases parameterValue? config item <;> rfl

/-- The results of a step's dependencies leave a complaint for each failed lookup. -/
theorem divide_dependencies_snd (step : Step) (answers : List (Except ClientError String)) :
    (divide ((step.dependencies.zip answers).map (dependencyResult step))).2 =
      unknown step answers := by
  rw [divide_snd, List.filterMap_map]
  refine List.filterMap_congr fun item _ => ?_
  obtain ⟨dependency, answer⟩ := item
  cases answer <;> rfl

/-- The results of a step's dependencies are its variables when no lookup failed. -/
theorem divide_dependencies_fst (step : Step) (pullSpecs : List String) :
    (divide ((step.dependencies.zip (pullSpecs.map .ok)).map (dependencyResult step))).1 =
      dependencyVariables step pullSpecs := by
  rw [divide_fst, List.filterMap_map, List.zip_map_right, List.filterMap_map, dependencyVariables,
    ← List.filterMap_eq_map]
  rfl

/-- Nothing is missing exactly if all parameters have values. -/
theorem missing_eq_nil_iff {config : TestConfiguration} {step : Step} :
    missing config step = [] ↔
      ∀ parameter ∈ step.parameters, parameterValue? config parameter ≠ none := by
  rw [missing, List.filterMap_eq_nil_iff]
  refine forall₂_congr fun item _ => ?_
  cases parameterValue? config item <;> simp

/-- Nothing is unknown exactly if no lookup failed. -/
theorem unknown_eq_nil_iff {step : Step} {answers : List (Except ClientError String)}
    (answered : answers.length = step.dependencies.length) :
    unknown step answers = [] ↔ ∀ error, .error error ∉ answers := by
  have asked : ∀ answer ∈ answers, ∃ dependency,
      (dependency, answer) ∈ step.dependencies.zip answers := by
    intro answer member
    rw [← List.map_snd_zip (Nat.le_of_eq answered)] at member
    obtain ⟨⟨dependency, _⟩, paired, rfl⟩ := List.mem_map.1 member
    exact ⟨dependency, paired⟩
  rw [unknown, List.filterMap_eq_nil_iff]
  constructor
  · intro fine error failed
    obtain ⟨dependency, paired⟩ := asked _ failed
    cases fine _ paired
  · rintro known ⟨dependency, answer⟩ paired
    cases answer with
    | ok pullSpec => rfl
    | error error => exact absurd (List.of_mem_zip paired).2 (known error)

/-- Answers without failures are pull specs. -/
theorem exists_pullSpecs {answers : List (Except ClientError String)}
    (known : ∀ error, .error error ∉ answers) :
    ∃ pullSpecs : List String, answers = pullSpecs.map .ok := by
  induction answers with
  | nil => exact ⟨[], rfl⟩
  | cons answer rest ih =>
    obtain ⟨pullSpecs, rfl⟩ := ih fun error member => known error (List.mem_cons_of_mem _ member)
    cases answer with
    | ok pullSpec => exact ⟨pullSpec :: pullSpecs, rfl⟩
    | error error => exact absurd List.mem_cons_self (known error)

/-- A step with nothing wrong has a pod. -/
theorem stepResult_of_fine (plan : Plan) (shared : List EnvVar) {step : Step}
    {pullSpecs : List String} (valid : invalidQuantity? step = none)
    (valued : missing plan.config step = []) (known : unknown step (pullSpecs.map .ok) = []) :
    stepResult plan shared step (pullSpecs.map .ok) =
      .ok (Workload.pod
        { plan, step, shared
          parameters := parameterVariables plan.config step
          dependencies := dependencyVariables step pullSpecs }) := by
  have parameters := divide_parameters plan.config step
  have dependencies :
      divide ((step.dependencies.zip (pullSpecs.map .ok)).map (dependencyResult step)) =
        (dependencyVariables step pullSpecs, []) :=
    Prod.ext (divide_dependencies_fst step pullSpecs)
      ((divide_dependencies_snd step (pullSpecs.map .ok)).trans known)
  rw [valued] at parameters
  rw [stepResult, valid]
  simp only [parameters, dependencies]
  rfl

/-- A step whose amounts are quantities is reported with all that is wrong with it. -/
theorem stepResult_of_wrong (plan : Plan) (shared : List EnvVar) {step : Step}
    {answers : List (Except ClientError String)} (valid : invalidQuantity? step = none)
    (wrong : missing plan.config step ++ unknown step answers ≠ []) :
    stepResult plan shared step answers =
      .error (missing plan.config step ++ unknown step answers) := by
  have parameters := divide_parameters plan.config step
  have dependencies := divide_dependencies_snd step answers
  obtain ⟨error, rest, listed⟩ := List.exists_cons_of_ne_nil wrong
  rw [stepResult, valid]
  simp only [parameters, dependencies, listed]

/-- What becomes of a step is what it adds to a batch. -/
theorem yields_stepResult (plan : Plan) (shared : List EnvVar) {step : Step}
    {answers : List (Except ClientError String)} (fits : answers.length = (images step).length) :
    Yields plan shared step answers (add (stepResult plan shared step answers) {}) := by
  rcases invalidQuantity?_cases step with ⟨resource, amount, found, invalid⟩ |
    ⟨requests, resource, amount, found, invalid⟩ | ⟨requests, limits, valid⟩
  · rw [images_of_invalid invalid] at fits
    obtain rfl := List.eq_nil_of_length_eq_zero fits
    rw [stepResult, invalid]
    exact .request found
  · rw [images_of_invalid invalid] at fits
    obtain rfl := List.eq_nil_of_length_eq_zero fits
    rw [stepResult, invalid]
    exact .limit requests found
  · rw [images_of_valid valid, List.length_map] at fits
    by_cases fine : missing plan.config step ++ unknown step answers = []
    · obtain ⟨nothingMissing, nothingUnknown⟩ := List.append_eq_nil_iff.1 fine
      obtain ⟨pullSpecs, rfl⟩ := exists_pullSpecs ((unknown_eq_nil_iff fits).1 nothingUnknown)
      rw [stepResult_of_fine plan shared valid nothingMissing nothingUnknown]
      rw [List.length_map] at fits
      exact .complete requests limits fits (missing_eq_nil_iff.1 nothingMissing)
    · have wrong : (∃ parameter ∈ step.parameters,
          parameterValue? plan.config parameter = none) ∨ ∃ error, .error error ∈ answers := by
        by_contra none
        obtain ⟨valued, known⟩ := not_or.1 none
        refine fine (List.append_eq_nil_iff.2 ⟨missing_eq_nil_iff.2 ?_, ?_⟩)
        · exact fun parameter declared lacking => valued ⟨parameter, declared, lacking⟩
        · exact (unknown_eq_nil_iff fits).2 fun error failed => known ⟨error, failed⟩
      have yields : Yields plan shared step answers _ := .incomplete requests limits fits wrong
      rwa [stepResult_of_wrong plan shared valid fine, add, List.append_nil]

/-- The lookups of a step are those of its dependencies, of which there are none for a step with an
amount that is not a quantity. -/
theorem lookupHistory_images (ns : String) {step : Step}
    {answers : List (Except ClientError String)} (fits : answers.length = (images step).length) :
    lookupHistory ns (images step) answers =
      lookupHistory ns (step.dependencies.map (·.image)) answers := by
  cases invalid : invalidQuantity? step with
  | none => rw [images_of_valid invalid]
  | some error =>
    rw [images_of_invalid invalid] at fits
    obtain rfl := List.eq_nil_of_length_eq_zero fits
    rw [lookupHistory, lookupHistory, List.zip_nil_right, List.zip_nil_right]

/-- A step for which a pod is built has all its images looked up and all its parameters valued, and
its pod is the workload with these. -/
theorem pod_of_buildPod {plan : Plan} {shared : List EnvVar} {step : Step}
    {history : History Cluster} {pod : Pod}
    (built : (buildPod plan shared step).Ends history (.ok pod)) :
    ∃ pullSpecs : List String, pullSpecs.length = step.dependencies.length ∧
      history = lookupHistory plan.ns (step.dependencies.map (·.image)) (pullSpecs.map .ok) ∧
      (∀ parameter ∈ step.parameters, parameterValue? plan.config parameter ≠ none) ∧
      pod = Workload.pod
        { plan, step, shared
          parameters := parameterVariables plan.config step
          dependencies := dependencyVariables step pullSpecs } := by
  obtain ⟨answers, fits, rfl, made⟩ := ends_buildPod built
  have yields := yields_stepResult plan shared fits
  rw [lookupHistory_images plan.ns fits]
  rw [← made, add] at yields
  generalize batch : ({ pods := pod :: ({} : Batch).pods } : Batch) = added at yields
  cases yields with
  | request | limit | incomplete => cases batch
  | complete _ _ answered valued =>
    obtain rfl : pod = _ := (List.cons.inj (Batch.mk.inj batch).1).1
    exact ⟨_, answered, rfl, valued, rfl⟩

/-! ## Batches as what their steps add -/

/-- A step with the answers to its lookups and what it adds to a batch. -/
structure Part where
  /-- The step. -/
  step : Step
  /-- The answers to its lookups, in order. -/
  answers : List (Except ClientError String)
  /-- What it adds. -/
  yield : Batch

/-- The lookups of a step with their answers. -/
def Part.history (ns : String) (part : Part) : History Cluster :=
  lookupHistory ns (part.step.dependencies.map (·.image)) part.answers

/-- A batch with the lookups that were made for it consists of parts, one after the other. -/
structure Consists (plan : Plan) (shared : List EnvVar) (parts : List Part)
    (history : History Cluster) (batch : Batch) : Prop where
  /-- Each step adds what its own answers make of it. -/
  yields : ∀ part ∈ parts, Yields plan shared part.step part.answers part.yield
  /-- The lookups are those of the steps. -/
  asked : history = parts.flatMap (Part.history plan.ns)
  /-- The pods are those of the steps. -/
  pods : batch.pods = parts.flatMap (·.yield.pods)
  /-- The errors are those of the steps. -/
  errors : batch.errors = parts.flatMap (·.yield.errors)

/-- Adding the result of a step puts what the step adds in front of a batch. -/
theorem add_eq (result : Except (List RunError) Pod) (batch : Batch) :
    (add result batch).pods = (add result {}).pods ++ batch.pods ∧
      (add result batch).errors = (add result {}).errors ++ batch.errors := by
  cases result with
  | ok pod => exact ⟨rfl, rfl⟩
  | error errors => exact ⟨rfl, by rw [add, add, List.append_nil]⟩

/-- A batch that is built from steps consists of what they add, one after the other. -/
theorem consists_of_build {plan : Plan} {shared : List EnvVar} {steps : List Step}
    {history : History Cluster} {batch : Batch}
    (ends : (build plan shared steps).Ends history batch) :
    ∃ parts : List Part, parts.map (·.step) = steps ∧
      Consists plan shared parts history batch := by
  -- The first step is built, and what is left of the history belongs to the steps after it.
  induction steps generalizing history batch with
  | nil =>
    obtain ⟨rfl, rfl⟩ := ends_done_iff.1 ends
    exact ⟨[], rfl, ⟨(fun _ member => nomatch member), rfl, rfl, rfl⟩⟩
  | cons step rest ih =>
    simp only [build, bind_eq, pure_eq, ends_bind_iff, ends_done_iff] at ends
    obtain ⟨_, _, result, rfl, first, early, _, later, rfl, others, rfl, rfl⟩ := ends
    obtain ⟨answers, fits, rfl, rfl⟩ := ends_buildPod first
    obtain ⟨parts, rfl, consists⟩ := ih others
    obtain ⟨pods, errors⟩ := add_eq (stepResult plan shared step answers) later
    refine ⟨⟨step, answers, add (stepResult plan shared step answers) {}⟩ :: parts, rfl,
      ⟨?_, ?_, ?_, ?_⟩⟩
    · intro other member
      rcases List.mem_cons.1 member with rfl | member
      · exact yields_stepResult plan shared fits
      · exact consists.yields other member
    · rw [List.append_nil, lookupHistory_images plan.ns fits, consists.asked]
      rfl
    · rw [pods, consists.pods]
      rfl
    · rw [errors, consists.errors]
      rfl

/-- A batch consists of what the steps that are not skipped add, one after the other, whatever
answers the lookups; and what a step adds is decided by the step and the answers to its own lookups,
so that no other step has a part in it. The steps of a phase are built in this way. -/
theorem consists_of_steps {σ : Type} (plan : Plan) (shared : List EnvVar) (failedBefore : Bool)
    (steps : List Step) (handler : Handler Cluster σ) (state : σ) :
    let kept := steps.filter fun step => !isSkipped plan.config failedBefore step
    let building := build plan shared kept
    (∃ parts : List Part, parts.map (·.step) = kept ∧
        Consists plan shared parts (building.trace handler state)
          (building.run handler state).1) ∧
      (∀ step answers first second, Yields plan shared step answers first →
        Yields plan shared step answers second → first = second) ∧
      ∀ phase : Phase, phase.steps plan.config = steps →
        ofPhase plan shared failedBefore phase = building := by
  intro kept building
  refine ⟨consists_of_build (ends_run handler building state), ?_, ?_⟩
  · exact fun step answers first second => Yields.unique
  · rintro phase rfl
    rfl

end Batch

end StagedTest
