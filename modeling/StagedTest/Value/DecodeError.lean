import StagedTest.Value

/-!
# Why a value does not decode

A complaint names what was found and what was expected, or the field that is missing. The
causes are kept apart from their wording, which is `DecodeError.message`.
-/
namespace StagedTest

/-- What a complaint says of a value. -/
inductive Shape
  /-- The absent value. -/
  | null
  /-- A truth value. -/
  | bool (value : Bool)
  /-- An integer. -/
  | integer (value : Int)
  /-- A number with a point or an exponent. -/
  | decimal (value : Decimal)
  /-- A text. -/
  | text (value : String)
  /-- A list. -/
  | sequence
  /-- Named values. -/
  | record
deriving DecidableEq, Repr

namespace Shape

/-- What a complaint says of a value. -/
def ofValue : Value → Shape
  | .null => .null
  | .bool value => .bool value
  | .number (.integer value) => .integer value
  | .number (.decimal value) => .decimal value
  | .text value => .text value
  | .plain value => .text value
  | .sequence _ => .sequence
  | .record _ => .record

/-- The wording of a shape. -/
def description : Shape → String
  | .null => "null"
  | .bool value => s!"boolean `{value}`"
  | .integer value => s!"integer `{value}`"
  | .decimal value => "floating point `" ++ value.text ++ "`"
  | .text value => "string \"" ++ value ++ "\""
  | .sequence => "sequence"
  | .record => "map"

end Shape

/-- Why a value does not decode. -/
inductive DecodeError
  /-- The value is of another kind. -/
  | wrongType (found : Shape) (expected : String)
  /-- The value is of the right kind, but not one of those allowed. -/
  | wrongValue (found : Shape) (expected : String)
  /-- A list has another number of items. -/
  | wrongLength (count : Nat) (expected : String)
  /-- A required field is absent. -/
  | missingField (name : String)
  /-- A field is given twice. -/
  | repeatedField (name : String)
  /-- A tag names no known alternative. -/
  | unknownVariant (name : String) (known : List String)
  /-- A text is not of the format that it should have. -/
  | malformed (complaint : String)
deriving DecidableEq, Repr

namespace DecodeError

/-- The complaint about a value of another kind. -/
def unexpected (value : Value) (expected : String) : DecodeError :=
  .wrongType (.ofValue value) expected

/-- The wording of a complaint. -/
def message : DecodeError → String
  | .wrongType found expected => "invalid type: " ++ found.description ++ ", expected " ++ expected
  | .wrongValue found expected =>
    "invalid value: " ++ found.description ++ ", expected " ++ expected
  | .wrongLength count expected => s!"invalid length {count}, expected {expected}"
  | .missingField name => "missing field `" ++ name ++ "`"
  | .repeatedField name => "duplicate field `" ++ name ++ "`"
  | .unknownVariant name known =>
    "unknown variant `" ++ name ++ "`, expected one of " ++
      ", ".intercalate (known.map fun other => "`" ++ other ++ "`")
  | .malformed complaint => complaint

end DecodeError

end StagedTest
