import StagedTest.Decimal.Binary
import StagedTest.Value

/-!
# JSON texts

Reading and writing document values as JSON. A record is read with its fields as they are written,
or merged: in key order, the last of several with one name counting. Integers beyond 64 bits and all
other numbers are read in double precision. Writing is either compact or on indented lines.
-/
namespace StagedTest.Json

/-- Drops the white space that may stand between the parts of a text. -/
def skipBlank (text : List Char) : List Char :=
  text.dropWhile fun c => c = ' ' || c = '\n' || c = '\t' || c = '\r'

/-- The value of a hexadecimal digit. -/
def hexDigit? (c : Char) : Option Nat :=
  if '0' ≤ c ∧ c ≤ '9' then some (c.toNat - 48)
  else if 'a' ≤ c ∧ c ≤ 'f' then some (c.toNat - 87)
  else if 'A' ≤ c ∧ c ≤ 'F' then some (c.toNat - 55)
  else none

/-- Four hexadecimal digits as a number. -/
def hexUnit? (a b c d : Char) : Option Nat := do
  return ((← hexDigit? a) * 16 + (← hexDigit? b)) * 256 + ((← hexDigit? c) * 16 + (← hexDigit? d))

/-- The character that a letter after a backslash stands for. -/
def escaped? : Char → Option Char
  | '"' => some '"'
  | '\\' => some '\\'
  | '/' => some '/'
  | 'b' => some '\x08'
  | 'f' => some '\x0c'
  | 'n' => some '\n'
  | 'r' => some '\r'
  | 't' => some '\t'
  | _ => none

/-- Reads the rest of a string after its opening quote. -/
def readString : List Char → Option (List Char × List Char)
  | [] => none
  | '"' :: rest => some ([], rest)
  | '\\' :: 'u' :: a :: b :: c :: d :: rest => do
    let unit ← hexUnit? a b c d
    if 0xD800 ≤ unit ∧ unit < 0xDC00 then
      match rest with
      | '\\' :: 'u' :: e :: f :: g :: h :: rest =>
        let low ← hexUnit? e f g h
        if 0xDC00 ≤ low ∧ low < 0xE000 then
          let (chars, rest) ← readString rest
          return (Char.ofNat (0x10000 + (unit - 0xD800) * 0x400 + (low - 0xDC00)) :: chars, rest)
        else none
      | _ => none
    else if 0xDC00 ≤ unit ∧ unit < 0xE000 then none
    else
      let (chars, rest) ← readString rest
      return (Char.ofNat unit :: chars, rest)
  | '\\' :: c :: rest => do
    let c ← escaped? c
    let (chars, rest) ← readString rest
    return (c :: chars, rest)
  | c :: rest =>
    if c.toNat < 32 then none
    else do
      let (chars, rest) ← readString rest
      return (c :: chars, rest)

/-- The number that digits stand for. -/
def ofDigits (digits : List Char) : Nat :=
  digits.foldl (fun value c => value * 10 + (c.toNat - 48)) 0

/-- An integer that fits 64 bits as itself, any other in double precision. A negative zero is
kept as a decimal. -/
def integerNumber? (negative : Bool) (magnitude : Nat) : Option Number :=
  if negative then
    if 0 < magnitude ∧ magnitude ≤ Nat.pow 2 63 then some (.integer (-(magnitude : Int)))
    else (Decimal.rounded? ⟨true, magnitude, 0⟩).map .decimal
  else if magnitude < Nat.pow 2 64 then some (.integer magnitude)
  else (Decimal.rounded? ⟨false, magnitude, 0⟩).map .decimal

/-- Reads the exponent of a number after its letter. -/
def readExponent? (text : List Char) : Option (Int × List Char) :=
  let (negative, rest) := match text with
    | '-' :: rest => (true, rest)
    | '+' :: rest => (false, rest)
    | rest => (false, rest)
  match rest.takeWhile (·.isDigit) with
  | [] => none
  | digits =>
    let magnitude : Int := ofDigits digits
    some (if negative then -magnitude else magnitude, rest.dropWhile (·.isDigit))

/-- The greatest magnitude of an exponent that can matter to a number of a document. -/
def exponentBound : Int := 100000

/-- Reads a number. -/
def readNumber? (text : List Char) : Option (Number × List Char) := do
  let (negative, rest) := match text with
    | '-' :: rest => (true, rest)
    | rest => (false, rest)
  let whole := rest.takeWhile (·.isDigit)
  let rest := rest.dropWhile (·.isDigit)
  if whole.isEmpty ∨ (whole.head? = some '0' ∧ whole ≠ ['0']) then none
  let (places, rest) ← match rest with
    | '.' :: rest =>
      match rest.takeWhile (·.isDigit) with
      | [] => none
      | digits => some (some digits, rest.dropWhile (·.isDigit))
    | rest => some (none, rest)
  let (exponent, rest) ← match rest with
    | 'e' :: rest => (readExponent? rest).map fun (n, rest) => (some n, rest)
    | 'E' :: rest => (readExponent? rest).map fun (n, rest) => (some n, rest)
    | rest => some (none, rest)
  match places, exponent with
  | none, none => return (← integerNumber? negative (ofDigits whole), rest)
  | places, exponent =>
    let places := places.getD []
    let coefficient := ofDigits (whole ++ places)
    let exponent := exponent.getD 0
    if coefficient = 0 ∨ exponent < -exponentBound then
      return (.decimal ⟨negative, 0, 0⟩, rest)
    if exponentBound < exponent then none
    let read ← Decimal.rounded? ⟨negative, coefficient, exponent - places.length⟩
    return (.decimal read, rest)

/-- The rest of a text after a word. -/
def readWord? (word : List Char) (value : Value) (text : List Char) :
    Option (Value × List Char) :=
  if word.isPrefixOf text then some (value, text.drop word.length) else none

mutual

/-- Reads a value, in at most so many steps. -/
def readValue? : Nat → List Char → Option (Value × List Char)
  | 0, _ => none
  | steps + 1, text =>
    match skipBlank text with
    | [] => none
    | '"' :: rest => (readString rest).map fun (chars, rest) => (.text (String.ofList chars), rest)
    | '[' :: rest =>
      match skipBlank rest with
      | ']' :: rest => some (.sequence [], rest)
      | rest => (readItems? steps rest).map fun (items, rest) => (.sequence items, rest)
    | '\x7b' :: rest =>
      match skipBlank rest with
      | '\x7d' :: rest => some (.record [], rest)
      | rest => (readFields? steps rest).map fun (fields, rest) => (.record fields, rest)
    | 'n' :: rest => readWord? ['u', 'l', 'l'] .null rest
    | 't' :: rest => readWord? ['r', 'u', 'e'] (.bool true) rest
    | 'f' :: rest => readWord? ['a', 'l', 's', 'e'] (.bool false) rest
    | rest => (readNumber? rest).map fun (number, rest) => (.number number, rest)

/-- Reads the items of a list after its opening bracket. -/
def readItems? : Nat → List Char → Option (List Value × List Char)
  | 0, _ => none
  | steps + 1, text =>
    match readValue? steps text with
    | none => none
    | some (item, rest) =>
      match skipBlank rest with
      | ',' :: rest => (readItems? steps rest).map fun (items, rest) => (item :: items, rest)
      | ']' :: rest => some ([item], rest)
      | _ => none

/-- Reads the fields of a record after its opening brace. -/
def readFields? : Nat → List Char → Option (List (String × Value) × List Char)
  | 0, _ => none
  | steps + 1, text =>
    match skipBlank text with
    | '"' :: rest =>
      match readString rest with
      | none => none
      | some (name, rest) =>
        match skipBlank rest with
        | ':' :: rest =>
          match readValue? steps rest with
          | none => none
          | some (value, rest) =>
            match skipBlank rest with
            | ',' :: rest => (readFields? steps rest).map fun (fields, rest) =>
              ((String.ofList name, value) :: fields, rest)
            | '\x7d' :: rest => some ([(String.ofList name, value)], rest)
            | _ => none
        | _ => none
    | _ => none

end

/-- The value that a text is, as it is written, if it is one JSON value. -/
def read? (text : String) : Option Value :=
  let chars := text.toList
  match readValue? (2 * chars.length + 2) chars with
  | some (value, rest) => if (skipBlank rest).isEmpty then some value else none
  | none => none

/-- The value that a text stands for, if it is one JSON value: of several fields of one name the
last counts. -/
def parse? (text : String) : Option Value := (read? text).map Value.merged

/-- The spelling of a character in a string. -/
def spelling (c : Char) : List Char :=
  match c with
  | '"' => ['\\', '"']
  | '\\' => ['\\', '\\']
  | '\x08' => ['\\', 'b']
  | '\x0c' => ['\\', 'f']
  | '\n' => ['\\', 'n']
  | '\r' => ['\\', 'r']
  | '\t' => ['\\', 't']
  | c =>
    if c.toNat < 32 then
      ['\\', 'u', '0', '0', Nat.digitChar (c.toNat / 16), Nat.digitChar (c.toNat % 16)]
    else [c]

/-- A text as a JSON string. -/
def string (text : String) : String :=
  String.ofList ('"' :: text.toList.flatMap spelling ++ ['"'])

/-- A number as JSON. -/
def number : Number → String
  | .integer value => toString value
  | .decimal value => value.text

mutual

/-- A value as JSON without white space. -/
def render : Value → String
  | .null => "null"
  | .bool value => if value then "true" else "false"
  | .number value => number value
  | .text value => string value
  | .plain value => string value
  | .sequence items => "[" ++ renderItems items ++ "]"
  | .record fields => "\x7b" ++ renderFields fields ++ "\x7d"

/-- Items with commas between them. -/
def renderItems : List Value → String
  | [] => ""
  | [item] => render item
  | item :: rest => render item ++ "," ++ renderItems rest

/-- Fields with commas between them. -/
def renderFields : List (String × Value) → String
  | [] => ""
  | [(name, value)] => string name ++ ":" ++ render value
  | (name, value) :: rest => string name ++ ":" ++ render value ++ "," ++ renderFields rest

end

/-- The indentation of a line. -/
def indentation (depth : Nat) : String := String.ofList (List.replicate (2 * depth) ' ')

mutual

/-- A value as JSON on indented lines. -/
def pretty (depth : Nat) : Value → String
  | .sequence [] => "[]"
  | .sequence items =>
    "[\n" ++ prettyItems (depth + 1) items ++ "\n" ++ indentation depth ++ "]"
  | .record [] => "\x7b\x7d"
  | .record fields =>
    "\x7b\n" ++ prettyFields (depth + 1) fields ++ "\n" ++ indentation depth ++ "\x7d"
  | .null => "null"
  | .bool value => if value then "true" else "false"
  | .number value => number value
  | .text value => string value
  | .plain value => string value

/-- Items on lines of their own. -/
def prettyItems (depth : Nat) : List Value → String
  | [] => ""
  | [item] => indentation depth ++ pretty depth item
  | item :: rest => indentation depth ++ pretty depth item ++ ",\n" ++ prettyItems depth rest

/-- Fields on lines of their own. -/
def prettyFields (depth : Nat) : List (String × Value) → String
  | [] => ""
  | [(name, value)] => indentation depth ++ string name ++ ": " ++ pretty depth value
  | (name, value) :: rest =>
    indentation depth ++ string name ++ ": " ++ pretty depth value ++ ",\n" ++
      prettyFields depth rest

end

end StagedTest.Json
