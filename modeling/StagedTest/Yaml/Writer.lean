import StagedTest.Value.Json

/-!
# Writing YAML

A document value is written as blocks. A text stands without quotes where it reads back as the
same text, and between double quotes otherwise, with the escapes that JSON has.
-/
namespace StagedTest.Yaml

/-- Drops the sign of a number. -/
def dropSign : List Char → List Char
  | '+' :: rest => rest
  | '-' :: rest => rest
  | rest => rest

/-- Whether a list is an exponent, or empty. -/
def isExponent : List Char → Bool
  | [] => true
  | c :: rest =>
    (c == 'e' || c == 'E') && !(dropSign rest).isEmpty && (dropSign rest).all (·.isDigit)

/-- Whether a list is digits with at most one point, at least one digit, and maybe an
exponent. -/
def isNumeral (text : List Char) : Bool :=
  let whole := text.takeWhile (·.isDigit)
  match text.dropWhile (·.isDigit) with
  | '.' :: rest =>
    !(whole.isEmpty && (rest.takeWhile (·.isDigit)).isEmpty) &&
      isExponent (rest.dropWhile (·.isDigit))
  | rest => !whole.isEmpty && isExponent rest

/-- The words that stand for numbers. -/
def numberWords : List String := ["inf", "infinity", "nan"]

/-- Whether a text would be read as a number. -/
def readsAsNumber (text : String) : Bool :=
  let magnitude := dropSign text.toList
  isNumeral magnitude || numberWords.contains (String.ofList magnitude).toLower

/-- The words that stand for something else than themselves. -/
def reservedWords : List String :=
  [ "yes", "Yes", "YES", "no", "No", "NO", "True", "TRUE", "true", "False", "FALSE", "false"
  , "on", "On", "ON", "off", "Off", "OFF", "null", "Null", "NULL", "~" ]

/-- The characters with a meaning at the beginning of a scalar. -/
def leadingMarks : List Char :=
  [' ', '&', '*', '?', '|', '-', '<', '>', '=', '!', '%', '@', '.']

/-- The characters with a meaning anywhere in a scalar. -/
def innerMarks : List Char :=
  [':', '\x7b', '\x7d', '[', ']', ',', '#', '\x60', '"', '\'', '\\', '\t', '\n', '\r']

/-- Whether a character cannot stand in a scalar without quotes. -/
def needsEscape (c : Char) : Bool :=
  innerMarks.contains c || c ≤ '\x06' || ('\x0e' ≤ c && c ≤ '\x1f' && c != '\x1b')

/-- Whether a text has to stand between quotes. -/
def needsQuotes (text : String) : Bool :=
  let chars := text.toList
  chars.isEmpty || chars.head?.any leadingMarks.contains || chars.getLast? == some ' ' ||
    chars.any needsEscape || reservedWords.contains text || text.startsWith "0x" ||
    readsAsNumber text

/-- The spelling of a character between quotes. -/
def spelling (c : Char) : List Char :=
  if c = '\x7f' then ['\\', 'u', '0', '0', '7', 'f'] else Json.spelling c

/-- A text as a scalar. -/
def scalar (text : String) : String :=
  if needsQuotes text then String.ofList ('"' :: text.toList.flatMap spelling ++ ['"'])
  else text

/-- The white space that lines of some depth begin with. -/
def indentation (depth : Nat) : String := String.ofList (List.replicate (2 * depth) ' ')

mutual

/-- A value whose first line has been begun at some depth. -/
def block (depth : Nat) : Value → String
  | .null => "~"
  | .bool value => if value then "true" else "false"
  | .number value => Json.number value
  | .text value => scalar value
  | .plain value => value
  | .sequence [] => "[]"
  | .sequence items => blockItems depth items
  | .record [] => "\x7b\x7d"
  | .record fields => blockFields depth fields

/-- Items at some depth. -/
def blockItems (depth : Nat) : List Value → String
  | [] => ""
  | [item] => "- " ++ block (depth + 1) item
  | item :: rest =>
    "- " ++ block (depth + 1) item ++ "\n" ++ indentation depth ++ blockItems depth rest

/-- Fields at some depth. -/
def blockFields (depth : Nat) : List (String × Value) → String
  | [] => ""
  | [(name, value)] => scalar name ++ ":" ++ behindName depth value
  | (name, value) :: rest =>
    scalar name ++ ":" ++ behindName depth value ++ "\n" ++ indentation depth ++
      blockFields depth rest

/-- The value of a field at some depth, behind its colon. -/
def behindName (depth : Nat) : Value → String
  | .sequence (item :: items) =>
    "\n" ++ indentation (depth + 1) ++ blockItems (depth + 1) (item :: items)
  | .record (field :: fields) =>
    "\n" ++ indentation (depth + 1) ++ blockFields (depth + 1) (field :: fields)
  | value => " " ++ block (depth + 1) value

end

/-- A value as a document. -/
def document (value : Value) : String := "---\n" ++ block 0 value ++ "\n"

end StagedTest.Yaml
