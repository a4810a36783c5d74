import StagedTest.StringMap

/-!
# Quantities

What a step asks of the machine is written as a number with a unit, such as `100m`, `2Gi` or
`1e3`: a sign or none, digits with or without a point, and then a unit or a power of ten.
-/
namespace StagedTest.Quantity

/-- A text without the sign that it begins with. -/
def unsigned : List Char → List Char
  | '+' :: rest | '-' :: rest => rest
  | text => text

/-- The units. -/
def units : List (List Char) :=
  (['K', 'M', 'G', 'T', 'P', 'E'].map fun c => [c, 'i']) ++
    ['n', 'u', 'm', 'k', 'M', 'G', 'T', 'P', 'E'].map fun c => [c]

/-- Whether a text is one digit or more. -/
def isDigits (text : List Char) : Bool := !text.isEmpty && text.all (·.isDigit)

/-- Whether a text is a power of ten. -/
def isExponent : List Char → Bool
  | 'e' :: rest | 'E' :: rest => isDigits (unsigned rest)
  | _ => false

/-- Whether a text may follow the digits of a quantity. -/
def isSuffix (text : List Char) : Bool :=
  text.isEmpty || units.contains text || isExponent text

/-- What follows the digits that a text begins with, if there are any, with or without a point. -/
def afterNumber? (text : List Char) : Option (List Char) :=
  let whole := text.takeWhile (·.isDigit)
  match text.dropWhile (·.isDigit) with
  | '.' :: rest =>
    if whole.isEmpty && (rest.takeWhile (·.isDigit)).isEmpty then none
    else some (rest.dropWhile (·.isDigit))
  | rest => if whole.isEmpty then none else some rest

/-- Whether a text is a quantity. -/
def isValid (text : String) : Bool :=
  match afterNumber? (unsigned text.toList) with
  | some suffix => isSuffix suffix
  | none => false

/-- The first resource, in order, whose amount is not a quantity. -/
def firstInvalid? (amounts : StringMap String) : Option (String × String) :=
  amounts.entries.find? fun (_, amount) => !isValid amount

end StagedTest.Quantity
