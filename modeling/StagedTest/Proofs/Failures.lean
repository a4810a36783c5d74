import StagedTest.RunError

/-!
# Trees of failures

What went wrong in a run is a tree: a failed phase holds the failure that it failed with, and
several failures at once are held together. Taking apart what is held together stops at failed
phases, while whether anything was called off is asked below them, too. The main statement says that
the two agree in every tree, and that failures which are collected are all found again, in their
order, when the result is taken apart.
-/
namespace StagedTest.RunError

/-- What holds of a failure as soon as it holds of everything that the failure is made of holds of
every failure. -/
theorem tree_induction {holds : RunError → Prop}
    (together : ∀ errors, (∀ error ∈ errors, holds error) → holds (.aggregate errors))
    (phase : ∀ test phase source, holds source → holds (.phaseFailed test phase source))
    (single : ∀ error, (∀ errors, error ≠ .aggregate errors) →
      (∀ test phase source, error ≠ .phaseFailed test phase source) → holds error) :
    ∀ error, holds error
  | .aggregate errors => together errors fun part _ => tree_induction together phase single part
  | .phaseFailed test ofPhase source =>
    phase test ofPhase source (tree_induction together phase single source)
  | .parameter .. | .profileSecret .. | .optionalOperator .. | .deleteSecret .. | .createSecret ..
  | .readCredential .. | .createCredential .. | .mirrorNameCollision .. | .createAccess ..
  | .invalidQuantity .. | .missingParameter .. | .imagePullSpec .. | .createPod .. | .podFailed ..
  | .deletePods .. | .cancelled => single _ nofun nofun

variable {error : RunError} {errors : List RunError}

/-! ## Taking failures apart -/

/-- A failure that holds no others together stands for itself. -/
theorem leaves_of_ne (apart : ∀ errors, error ≠ .aggregate errors) : error.leaves = [error] := by
  rw [leaves]
  exact apart

/-- Several failures are taken apart one after the other. -/
theorem leavesOfAll_eq_flatMap (errors : List RunError) :
    leavesOfAll errors = errors.flatMap leaves := by
  induction errors with
  | nil => rw [leavesOfAll, List.flatMap_nil]
  | cons error rest ih => rw [leavesOfAll, List.flatMap_cons, ih]

/-- Failures that are held together are taken apart one after the other. -/
@[simp] theorem leaves_aggregate (errors : List RunError) :
    (aggregate errors).leaves = errors.flatMap leaves := by
  rw [leaves, leavesOfAll_eq_flatMap]

/-- Nothing that a failure is taken apart into holds others together. -/
theorem ne_aggregate_of_mem_leaves (error : RunError) :
    ∀ leaf ∈ error.leaves, ∀ errors, leaf ≠ .aggregate errors := by
  have standing : ∀ error : RunError, (∀ errors, error ≠ .aggregate errors) →
      ∀ leaf ∈ error.leaves, ∀ errors, leaf ≠ .aggregate errors := by
    intro error apart leaf member
    rw [leaves_of_ne apart, List.mem_singleton] at member
    rwa [member]
  induction error using tree_induction with
  | together errors ih =>
    intro leaf member
    rw [leaves_aggregate] at member
    obtain ⟨part, held, member⟩ := List.mem_flatMap.1 member
    exact ih part held leaf member
  | phase test phase source _ => exact standing _ nofun
  | single error apart _ => exact standing error apart

/-- Failures that hold no others together are taken apart into themselves. -/
theorem flatMap_leaves_of_ne (apart : ∀ error ∈ errors, ∀ parts, error ≠ .aggregate parts) :
    errors.flatMap leaves = errors := by
  induction errors with
  | nil => rfl
  | cons error rest ih =>
    obtain ⟨own, others⟩ := List.forall_mem_cons.1 apart
    rw [List.flatMap_cons, leaves_of_ne own, ih others, List.singleton_append]

/-- What a failure is taken apart into cannot be taken apart any more. -/
theorem flatMap_leaves_leaves (error : RunError) : error.leaves.flatMap leaves = error.leaves :=
  flatMap_leaves_of_ne error.ne_aggregate_of_mem_leaves

/-- Failures of phases are not taken apart. -/
theorem leavesOfAll_phaseFailed (test : String) (source : Phase → RunError)
    (phases : List Phase) :
    leavesOfAll (phases.map fun phase => .phaseFailed test phase (source phase)) =
      phases.map fun phase => .phaseFailed test phase (source phase) := by
  rw [leavesOfAll_eq_flatMap]
  refine flatMap_leaves_of_ne fun error member => ?_
  obtain ⟨phase, _, rfl⟩ := List.mem_map.1 member
  exact nofun

/-! ## Collecting failures -/

/-- Nothing went wrong exactly if the result is success. -/
theorem collect_eq_ok_iff (errors : List RunError) : collect errors = .ok () ↔ errors = [] := by
  rcases errors with _ | ⟨first, _ | ⟨second, rest⟩⟩ <;> simp [collect]

/-- What is held together in the result of several failures is what is held together in each of
them: one failure alone is not wrapped, and several are wrapped once. -/
theorem leaves_of_collect (failed : collect errors = .error error) :
    error.leaves = leavesOfAll errors := by
  rcases errors with _ | ⟨first, _ | ⟨second, rest⟩⟩
  · cases failed
  · cases failed
    rw [leavesOfAll, leavesOfAll, List.append_nil]
  · cases failed
    rw [leaves]

/-! ## Calling off -/

/-- Some of several failures say that the run was called off exactly if one of them does. -/
theorem anyCancelled_iff (errors : List RunError) :
    anyCancelled errors = true ↔ ∃ error ∈ errors, error.isCancelled = true := by
  induction errors with
  | nil => simp [anyCancelled]
  | cons error rest ih => simp [anyCancelled, ih]

/-- The result of what went wrong says that the run was called off if one of the failures does. -/
theorem isCancelled_collect {cause : RunError} (member : cause ∈ errors)
    (reported : cause.isCancelled = true) :
    ∃ error, collect errors = .error error ∧ error.isCancelled = true := by
  rcases errors with _ | ⟨first, _ | ⟨second, rest⟩⟩
  · contradiction
  · obtain rfl := List.mem_singleton.1 member
    exact ⟨cause, rfl, reported⟩
  · refine ⟨_, rfl, ?_⟩
    rw [isCancelled, anyCancelled_iff]
    exact ⟨cause, member, reported⟩

/-- Failures that are held together say that the run was called off exactly if one of them does. -/
@[simp] theorem isCancelled_aggregate_iff (errors : List RunError) :
    (aggregate errors).isCancelled = true ↔ ∃ error ∈ errors, error.isCancelled = true := by
  rw [isCancelled, anyCancelled_iff]

/-- A failure says that the run was called off exactly if something does that it is taken apart
into. -/
theorem isCancelled_iff_leaves (error : RunError) :
    error.isCancelled = true ↔ ∃ leaf ∈ error.leaves, leaf.isCancelled = true := by
  have standing : ∀ error : RunError, (∀ errors, error ≠ .aggregate errors) →
      (error.isCancelled = true ↔ ∃ leaf ∈ error.leaves, leaf.isCancelled = true) := by
    intro error apart
    simp [leaves_of_ne apart]
  induction error using tree_induction with
  | together errors ih =>
    rw [isCancelled_aggregate_iff, leaves_aggregate]
    constructor
    · rintro ⟨part, held, reported⟩
      obtain ⟨leaf, member, cancelled⟩ := (ih part held).1 reported
      exact ⟨leaf, List.mem_flatMap.2 ⟨part, held, member⟩, cancelled⟩
    · rintro ⟨leaf, member, cancelled⟩
      obtain ⟨part, held, member⟩ := List.mem_flatMap.1 member
      exact ⟨part, held, (ih part held).2 ⟨leaf, member, cancelled⟩⟩
  | phase test phase source _ => exact standing _ nofun
  | single error apart _ => exact standing error apart

/-- A cancellation can be reached in a failure, through failures that are held together and through
failed phases. -/
inductive Reaches : RunError → Prop
  /-- The failure is a cancellation. -/
  | cancelled : Reaches .cancelled
  /-- A cancellation can be reached in one of the failures that are held together. -/
  | together {errors : List RunError} {error : RunError} (held : error ∈ errors)
      (below : Reaches error) : Reaches (.aggregate errors)
  /-- A cancellation can be reached in what a phase failed with. -/
  | phase {test : String} {phase : Phase} {source : RunError} (below : Reaches source) :
      Reaches (.phaseFailed test phase source)

/-- A failure says that the run was called off exactly if a cancellation can be reached in it. -/
theorem isCancelled_iff_reaches (error : RunError) :
    error.isCancelled = true ↔ error.Reaches := by
  induction error using tree_induction with
  | together errors ih =>
    rw [isCancelled_aggregate_iff]
    constructor
    · rintro ⟨part, held, reported⟩
      exact .together held ((ih part held).1 reported)
    · rintro (_ | ⟨held, below⟩)
      exact ⟨_, held, (ih _ held).2 below⟩
  | phase test phase source ih =>
    rw [isCancelled, ih]
    constructor
    · exact .phase
    · rintro (_ | _ | below)
      exact below
  | single error apart noPhase =>
    constructor
    · intro reported
      cases error with
      | aggregate errors => exact absurd rfl (apart errors)
      | phaseFailed test phase source => exact absurd rfl (noPhase test phase source)
      | cancelled => exact .cancelled
      | _ => cases reported
    · intro reaches
      cases reaches with
      | cancelled => rfl
      | together => exact absurd rfl (apart _)
      | phase => exact absurd rfl (noPhase _ _ _)

/-- Taking a failure apart leaves nothing that holds others together, and cannot be repeated.
Collecting failures is success exactly if there are none, and otherwise gives one failure that is
taken apart into what each of them is taken apart into, in order. A failure says that the run was
called off exactly if something does that it is taken apart into, and exactly if a cancellation can
be reached in it. -/
theorem leaves_lawful (error : RunError) (errors : List RunError) :
    (∀ leaf ∈ error.leaves, ∀ parts, leaf ≠ .aggregate parts) ∧
    error.leaves.flatMap leaves = error.leaves ∧
    (collect errors = .ok () ↔ errors = []) ∧
    (errors = [] ∨ ∃ whole, collect errors = .error whole ∧
      whole.leaves = errors.flatMap leaves) ∧
    (error.isCancelled = true ↔ ∃ leaf ∈ error.leaves, leaf.isCancelled = true) ∧
    (error.isCancelled = true ↔ error.Reaches) := by
  refine ⟨error.ne_aggregate_of_mem_leaves, error.flatMap_leaves_leaves, collect_eq_ok_iff errors,
    ?_, error.isCancelled_iff_leaves, error.isCancelled_iff_reaches⟩
  cases collected : collect errors with
  | ok _ => exact .inl ((collect_eq_ok_iff errors).1 collected)
  | error whole =>
    have parts := leaves_of_collect collected
    rw [leavesOfAll_eq_flatMap] at parts
    exact .inr ⟨whole, rfl, parts⟩

end StagedTest.RunError
