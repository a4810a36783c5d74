import StagedTest.Decimal
import StagedTest.StringMap

/-!
# Document values

What a document holds before it is known what it stands for: the six kinds of JSON value and,
from run files, the plain scalar, whose kind is decided by the field that reads it. A record
lists its fields in the order in which they were written, and a name may come up several times.
Whoever reads a record says what becomes of a name that is repeated; `Value.merged` is the value
for those who let the last field count.
-/
namespace StagedTest

/-- A number of a document: an integer that fits 64 bits, or a decimal. -/
inductive Number
  /-- An integer. -/
  | integer (value : Int)
  /-- Any other number. -/
  | decimal (value : Decimal)
deriving DecidableEq, Inhabited, Repr

/-- A value of a document. -/
inductive Value
  /-- The absent value. -/
  | null
  /-- A truth value. -/
  | bool (value : Bool)
  /-- A number. -/
  | number (value : Number)
  /-- A text. -/
  | text (value : String)
  /-- A scalar written without quotes, of no kind yet. -/
  | plain (value : String)
  /-- A list of values. -/
  | sequence (items : List Value)
  /-- Named values. -/
  | record (fields : List (String × Value))
deriving Inhabited

namespace Value

/-- An integer as a value. -/
def integer (value : Int) : Value := .number (.integer value)

/-- A decimal as a value. -/
def decimal (value : Decimal) : Value := .number (.decimal value)

/-- A list of texts as a value. -/
def texts (values : List String) : Value := .sequence (values.map .text)

/-- The first field of a given name. -/
def lookup (name : String) : List (String × Value) → Option Value
  | [] => none
  | (key, value) :: rest => if key = name then some value else lookup name rest

/-- The field of a given name of a record; other values have none. -/
def field? (name : String) : Value → Option Value
  | .record fields => lookup name fields
  | _ => none

mutual

/-- A value in whose records only the last of several fields of one name is left. The fields are
listed in the order of their names. -/
def merged : Value → Value
  | .sequence items => .sequence (mergedItems items)
  | .record fields => .record (StringMap.ofList (mergedFields fields)).entries
  | value => value

/-- The items of a list, each merged. -/
def mergedItems : List Value → List Value
  | [] => []
  | item :: rest => item.merged :: mergedItems rest

/-- The fields of a record, the value of each merged. -/
def mergedFields : List (String × Value) → List (String × Value)
  | [] => []
  | (name, value) :: rest => (name, value.merged) :: mergedFields rest

end

/-- The items of a list are merged one by one. -/
theorem mergedItems_eq_map (items : List Value) : mergedItems items = items.map merged := by
  induction items with
  | nil => rfl
  | cons item rest ih => rw [mergedItems, ih, List.map_cons]

/-- The fields of a record keep their names when they are merged. -/
theorem mergedFields_eq_map (fields : List (String × Value)) :
    mergedFields fields = fields.map fun field => (field.1, field.2.merged) := by
  induction fields with
  | nil => rfl
  | cons field rest ih =>
    obtain ⟨name, value⟩ := field
    rw [mergedFields, ih, List.map_cons]

/-- The text of a textual value. -/
def text? : Value → Option String
  | .text value => some value
  | .plain value => some value
  | _ => none

end Value

end StagedTest
