import StagedTest.Proofs.Attempts

/-!
# What the shared environment is made of

The variables that all steps of a test share are put together in a fixed order from values from
outside. Some of these have to be there and some are passed on only where they are, and in between
the secret of the cluster profile is read. The main statement says when an environment comes out and
which one, what else comes out, and what is asked of the cluster.
-/
namespace StagedTest.SharedEnvironment

open Program

/-! ## Ingredients -/

/-- Something that a shared environment is put together from. -/
inductive Ingredient
  /-- A value from outside that has to be there, and whom to blame if it is not. -/
  | required (blame : UndefinedParameter → RunError) (name : String)
  /-- A value from outside that is passed on where there is one. -/
  | optional (name : String)
  /-- The secret of the cluster profile, which has to be there and is not passed on. -/
  | profileSecret

namespace Ingredient

/-- A value from outside that has to be there, and is itself to blame if it is not. -/
def own (name : String) : Ingredient := .required (.parameter name) name

/-- The values of an optional operator, if there is one. -/
def ofOperator (parameters : Parameters) : List Ingredient :=
  if parameters.has "OO_INDEX" then
    ["OO_INDEX", "OO_PACKAGE", "OO_CHANNEL"].map (.required .optionalOperator) ++
      ["OO_INSTALL_NAMESPACE", "OO_TARGET_NAMESPACES"].map .optional
  else []

/-- What comes with a cluster profile. -/
def ofProfile (parameters : Parameters) : List Ingredient :=
  ["RELEASE_IMAGE_LATEST", "LEASED_RESOURCE", "IMAGE_FORMAT"].map own ++ ofOperator parameters

/-- The leased resources. -/
def ofLeases (plan : Plan) : List Ingredient :=
  plan.config.leases.map fun lease => own lease.variableName

/-- What the shared environment of a test is put together from, in order. -/
def ofTest (plan : Plan) : List Ingredient :=
  ofLeases plan ++
    if plan.config.clusterProfile.isSome then .profileSecret :: ofProfile plan.parameters else []

/-- The entry that an ingredient adds, if it adds one. -/
def added? (parameters : Parameters) : Ingredient → Option EnvVar
  | .required _ name | .optional name => (parameters.get? name).map (.of name)
  | .profileSecret => none

/-- What an ingredient fails with, if it does, where the secret of the cluster profile is answered
for in a certain way. -/
def failure? (plan : Plan) (answer : Except ClientError Secret) : Ingredient → Option RunError
  | .required blame name => if plan.parameters.has name then none else some (blame ⟨name⟩)
  | .optional _ => none
  | .profileSecret =>
    match answer with
    | .ok _ => none
    | .error error => some (.profileSecret (plan.test ++ "-cluster-profile") error)

end Ingredient

/-- What ingredients come to: the failure of the first one that fails, or else the entries that they
add. -/
def gather (plan : Plan) (answer : Except ClientError Secret) (items : List Ingredient) :
    Except RunError (List EnvVar) :=
  match items.findSome? (·.failure? plan answer) with
  | some error => .error error
  | none => .ok (items.filterMap (·.added? plan.parameters))

section

variable {plan : Plan} {answer : Except ClientError Secret}

/-- Ingredients come to entries exactly if none of them fails. -/
theorem gather_isOk_iff (items : List Ingredient) :
    (∃ entries, gather plan answer items = .ok entries) ↔
      ∀ item ∈ items, item.failure? plan answer = none := by
  rw [← List.findSome?_eq_none_iff, gather]
  cases items.findSome? (·.failure? plan answer) <;> simp

/-- The first of some ingredients come before the others. -/
theorem gather_append (first second : List Ingredient) :
    gather plan answer (first ++ second) = do
      let early ← gather plan answer first
      let late ← gather plan answer second
      return early ++ late := by
  rw [gather, List.findSome?_append, List.filterMap_append, gather, gather]
  cases first.findSome? (·.failure? plan answer) with
  | some error => rfl
  | none => cases second.findSome? (·.failure? plan answer) <;> rfl

/-- Of an ingredient and others, either the first one fails, or its entry stands before what the
others come to. -/
theorem gather_cons (item : Ingredient) (items : List Ingredient) :
    gather plan answer (item :: items) =
      match item.failure? plan answer with
      | some error => .error error
      | none => (gather plan answer items).map ((item.added? plan.parameters).toList ++ ·) := by
  rw [gather, List.findSome?_cons, gather]
  cases item.failure? plan answer with
  | some error => rfl
  | none =>
    cases items.findSome? (·.failure? plan answer) with
    | some error => rfl
    | none => cases added : item.added? plan.parameters <;> simp [Except.map, added]

/-- A value that has to be there comes to its variable, or to the blame. -/
theorem gather_required_cons (blame : UndefinedParameter → RunError) (name : String)
    (items : List Ingredient) :
    gather plan answer (.required blame name :: items) = do
      let value ← (plan.parameters.get name).mapError blame
      let rest ← gather plan answer items
      return .of name value :: rest := by
  rw [gather_cons, Parameters.get]
  cases found : plan.parameters.get? name with
  | none => simp only [Ingredient.failure?, Parameters.has, found]; rfl
  | some value => simp only [Ingredient.failure?, Ingredient.added?, Parameters.has, found]; rfl

/-- A value that may be missing comes to its variable, or to nothing. -/
theorem gather_optional_cons (name : String) (items : List Ingredient) :
    gather plan answer (.optional name :: items) =
      (gather plan answer items).map (optionalVariable plan.parameters name ++ ·) := by
  rw [gather_cons, optionalVariable, Ingredient.added?]
  cases plan.parameters.get? name <;> rfl

/-- The secret of the profile comes to nothing, or to the blame for its answer. -/
theorem gather_profileSecret_cons (items : List Ingredient) :
    gather plan answer (.profileSecret :: items) =
      match answer with
      | .ok _ => gather plan answer items
      | .error error => .error (.profileSecret (plan.test ++ "-cluster-profile") error) := by
  rw [gather_cons]
  cases answer with
  | error _ => rfl
  | ok secret =>
    change (gather plan (.ok secret) items).map _ = gather plan (.ok secret) items
    cases gather plan (.ok secret) items <;> rfl

/-- Several parameters are what they come to as values that have to be there. -/
theorem resolveAll_eq (names : List String) :
    resolveAll plan.parameters names = gather plan answer (names.map .own) := by
  induction names with
  | nil => rfl
  | cons name rest ih =>
    rw [List.map_cons, Ingredient.own, gather_required_cons, ← ih, resolveAll, resolve]
    cases plan.parameters.get name <;> rfl

/-- The variables of the leased resources are what their values come to. -/
theorem resolveAll_leases (plan : Plan) (answer : Except ClientError Secret) :
    resolveAll plan.parameters (plan.config.leases.map (·.variableName)) =
      gather plan answer (Ingredient.ofLeases plan) := by
  rw [resolveAll_eq, List.map_map]
  rfl

/-- The variables of an optional operator are what its values come to. -/
theorem operator_eq :
    operator plan.parameters = gather plan answer (Ingredient.ofOperator plan.parameters) := by
  rw [operator, Ingredient.ofOperator]
  change (if plan.parameters.has "OO_INDEX" then _ else _) = _
  split
  · have passed : gather plan answer [.optional "OO_INSTALL_NAMESPACE",
        .optional "OO_TARGET_NAMESPACES"] =
        .ok (optionalVariable plan.parameters "OO_INSTALL_NAMESPACE" ++
          optionalVariable plan.parameters "OO_TARGET_NAMESPACES") := by
      rw [gather_optional_cons, gather_optional_cons]
      simp [gather, Except.map]
    simp only [List.map_cons, List.map_nil, List.cons_append, List.nil_append,
      gather_required_cons, passed, operatorVariable, Variable.operatorIndex,
      Variable.operatorPackage, Variable.operatorChannel]
    cases plan.parameters.get "OO_INDEX" with
    | error _ => rfl
    | ok index =>
      cases plan.parameters.get "OO_PACKAGE" with
      | error _ => rfl
      | ok package => cases plan.parameters.get "OO_CHANNEL" <;> rfl
  · rfl

/-- What comes with the profile is what its values and those of the optional operator come to. -/
theorem ofProfile_eq :
    ofProfile plan.parameters = gather plan answer (Ingredient.ofProfile plan.parameters) := by
  rw [ofProfile, Ingredient.ofProfile, gather_append, ← resolveAll_eq, ← operator_eq]
  rfl

/-! ## When the ingredients come to entries -/

/-- A value that has to be there fails exactly if it is not. -/
theorem failure?_required_iff {blame : UndefinedParameter → RunError} {name : String} :
    (Ingredient.required blame name).failure? plan answer = none ↔
      plan.parameters.has name = true := by
  rw [Ingredient.failure?]
  split <;> simp [*]

/-- The leased resources do not fail exactly if each of them has a value. -/
theorem failure?_ofLeases_iff :
    (∀ item ∈ Ingredient.ofLeases plan, item.failure? plan answer = none) ↔
      ∀ lease ∈ plan.config.leases, plan.parameters.has lease.variableName = true := by
  simp [Ingredient.ofLeases, Ingredient.own, failure?_required_iff]

end

/-! ## Putting the shared environment together -/

/-- Leased resources come to entries exactly if each of them has a value. -/
theorem leases_isOk_iff {plan : Plan} :
    (∃ entries, resolveAll plan.parameters (plan.config.leases.map (·.variableName)) =
      .ok entries) ↔
      ∀ lease ∈ plan.config.leases, plan.parameters.has lease.variableName = true := by
  rw [resolveAll_leases plan (.ok default), gather_isOk_iff, failure?_ofLeases_iff]

/-- Where a leased resource has no value, or where there is no profile, nothing is asked for. -/
theorem assemble_of_no_secret {plan : Plan} (answer : Except ClientError Secret)
    (silent : ¬(plan.config.clusterProfile.isSome = true ∧
      ∀ lease ∈ plan.config.leases, plan.parameters.has lease.variableName = true)) :
    (assemble plan).run = .done (gather plan answer (Ingredient.ofTest plan)) := by
  rw [← leases_isOk_iff] at silent
  rw [assemble, Ingredient.ofTest, gather_append, ← resolveAll_leases]
  cases leased : resolveAll plan.parameters (plan.config.leases.map (·.variableName)) with
  | error error => rfl
  | ok leases =>
    cases profile : plan.config.clusterProfile with
    | none => exact congrArg (Program.done ∘ Except.ok) (List.append_nil leases).symm
    | some profile => exact absurd ⟨by rw [profile]; rfl, leases, leased⟩ silent

/-- Where each leased resource has a value and there is a profile, the answer for its secret
decides whether what comes with it is added. -/
theorem gather_ofTest_of_profile {plan : Plan} {leases : List EnvVar}
    (answer : Except ClientError Secret) (profile : plan.config.clusterProfile.isSome = true)
    (resolved : resolveAll plan.parameters (plan.config.leases.map (·.variableName)) =
      .ok leases) :
    gather plan answer (Ingredient.ofTest plan) =
      match answer with
      | .ok _ => (SharedEnvironment.ofProfile plan.parameters).map (leases ++ ·)
      | .error error => .error (.profileSecret (plan.test ++ "-cluster-profile") error) := by
  rw [Ingredient.ofTest, gather_append, ← resolveAll_leases, resolved, if_pos profile,
    gather_profileSecret_cons, ← ofProfile_eq]
  cases answer with
  | error error => rfl
  | ok secret => cases ofProfile plan.parameters <;> rfl

/-- Where each leased resource has a value and there is a profile, its secret is asked for, and the
answer decides. -/
theorem assemble_of_secret {plan : Plan} (profile : plan.config.clusterProfile.isSome = true)
    (leased : ∀ lease ∈ plan.config.leases, plan.parameters.has lease.variableName = true) :
    (assemble plan).run = .call (.readSecret plan.ns (plan.test ++ "-cluster-profile"))
      fun answer => .done (gather plan answer (Ingredient.ofTest plan)) := by
  obtain ⟨leases, resolved⟩ := leases_isOk_iff.2 leased
  have gathered := fun answer => gather_ofTest_of_profile answer profile resolved
  obtain ⟨profile, found⟩ := Option.isSome_iff_exists.1 profile
  rw [assemble, resolved, found]
  refine congrArg (Program.call _) (funext fun answer => ?_)
  refine Eq.trans ?_ (congrArg Program.done (gathered answer)).symm
  cases answer with
  | error error => rfl
  | ok secret =>
    change (Attempt.ofExcept (ofProfile plan.parameters) >>= fun made => pure (leases ++ made)).run
      = _
    cases ofProfile plan.parameters <;> rfl

/-- However the shared environment ends, it is what its ingredients come to for some answer. -/
theorem exists_gather_of_ends {plan : Plan} {history : History Cluster}
    {result : Except RunError (List EnvVar)}
    (ends : (assemble plan).run.Ends history result) :
    ∃ answer, result = gather plan answer (Ingredient.ofTest plan) := by
  by_cases asks : plan.config.clusterProfile.isSome = true ∧
      ∀ lease ∈ plan.config.leases, plan.parameters.has lease.variableName = true
  · rw [assemble_of_secret asks.1 asks.2] at ends
    obtain ⟨answer, _, _, later⟩ := ends_call_iff.1 ends
    exact ⟨answer, (ends_done_iff.1 later).2⟩
  · rw [assemble_of_no_secret (.ok default) asks] at ends
    exact ⟨_, (ends_done_iff.1 ends).2⟩

end StagedTest.SharedEnvironment
