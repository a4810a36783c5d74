import StagedTest.StringMap

/-!
# Parameters

Values that a test gets from outside: leased resources, pull specs of releases, and the like.
They come from a map, and where the map has none, from the surrounding environment if it is to
be asked.
-/
namespace StagedTest

/-- Where values from outside come from. -/
structure Parameters where
  /-- The values that are given. -/
  values : StringMap String
  /-- The surrounding environment, if it is to be asked. -/
  surroundings : Option (StringMap String) := none
deriving Inhabited

/-- A parameter without a value. -/
structure UndefinedParameter where
  /-- The parameter. -/
  name : String
deriving DecidableEq, Inhabited, Repr

/-- The wording of a missing value. -/
def UndefinedParameter.message (parameter : UndefinedParameter) : String :=
  "parameter '" ++ parameter.name ++ "' is not defined"

namespace Parameters

/-- The value of a parameter, if it has one. -/
def get? (parameters : Parameters) (name : String) : Option String :=
  parameters.values.get? name <|> parameters.surroundings.bind (·.get? name)

/-- Whether a parameter has a value. -/
def has (parameters : Parameters) (name : String) : Bool := (parameters.get? name).isSome

/-- The value of a parameter, or the complaint that it has none. -/
def get (parameters : Parameters) (name : String) : Except UndefinedParameter String :=
  match parameters.get? name with
  | some value => .ok value
  | none => .error ⟨name⟩

end Parameters

end StagedTest
