import StagedTest.StringSet
import StagedTest.Value.DecodeError

/-!
# Codecs

A codec holds both directions between the values of a type and document values. Records are
described field by field: `Fields ρ α` says how a group of fields of a record type `ρ` is
printed and how a value of type `α` is built from them, and such groups are put together as
applicative functors are. Decoding a record first reads every field that is present, in the
order in which it is written, and then looks for those that are missing, in the order in which
they are declared; so a wrong field is always reported before a missing one.
-/
namespace StagedTest

/-- Both directions between a type and document values. -/
structure Codec (α : Type) where
  /-- The document value that stands for a value. -/
  print : α → Value
  /-- The value that a document value stands for. -/
  decode : Value → Except DecodeError α

namespace Codec

variable {α β : Type}

/-- Texts. A plain scalar counts as its characters. -/
def text : Codec String where
  print := .text
  decode
    | .text value => .ok value
    | .plain value => .ok value
    | other => .error (.unexpected other "a string")

/-- Truth values. A plain scalar counts when it is one of the two words. -/
def bool : Codec Bool where
  print := .bool
  decode
    | .bool value => .ok value
    | .plain "true" => .ok true
    | .plain "false" => .ok false
    | other => .error (.unexpected other "a boolean")

/-- The digits of a number in some base, or nothing when one of them is not a digit. -/
def digitsIn? (base : Nat) (digits : List Char) : Option Nat :=
  if digits.isEmpty then none
  else digits.foldl (fun value? c => do
    let value ← value?
    let digit ←
      if c.isDigit then some (c.toNat - 48)
      else if 'a' ≤ c ∧ c ≤ 'f' then some (c.toNat - 87)
      else if 'A' ≤ c ∧ c ≤ 'F' then some (c.toNat - 55)
      else none
    if digit < base then some (value * base + digit) else none) (some 0)

/-- The integer that a plain scalar is written as: decimal without leading zeros, or with `0x`,
`0o` or `0b` before its digits. -/
def plainInteger? (scalar : String) : Option Int :=
  let (negative, rest) := match scalar.toList with
    | '-' :: rest => (true, rest)
    | '+' :: rest => (false, rest)
    | rest => (false, rest)
  let magnitude? := match rest with
    | '0' :: 'x' :: digits => digitsIn? 16 digits
    | '0' :: 'o' :: digits => digitsIn? 8 digits
    | '0' :: 'b' :: digits => digitsIn? 2 digits
    | '0' :: _ :: _ => none
    | digits => digitsIn? 10 digits
  magnitude?.map fun magnitude => if negative then -(magnitude : Int) else magnitude

/-- An integer within bounds, or the complaint about it. -/
def bounded (low high : Int) (expected : String) (value : Int) : Except DecodeError Int :=
  if low ≤ value ∧ value ≤ high then .ok value else .error (.wrongValue (.integer value) expected)

/-- The integer between bounds that a document value stands for. -/
def decodeInteger (low high : Int) (expected : String) : Value → Except DecodeError Int
  | .number (.integer value) => bounded low high expected value
  | .plain scalar =>
    match plainInteger? scalar with
    | some value => bounded low high expected value
    | none => .error (.unexpected (.plain scalar) expected)
  | other => .error (.unexpected other expected)

/-- Integers of 64 bits. -/
def int64 : Codec Int64 where
  print value := .integer value.toInt
  decode value :=
    (decodeInteger Int64.minValue.toInt Int64.maxValue.toInt "i64" value).map Int64.ofInt

/-- Integers of 32 bits. -/
def int32 : Codec Int32 where
  print value := .integer value.toInt
  decode value :=
    (decodeInteger Int32.minValue.toInt Int32.maxValue.toInt "i32" value).map Int32.ofInt

/-- Natural numbers of 16 bits. -/
def word16 : Codec UInt16 where
  print value := .integer value.toNat
  decode value := (decodeInteger 0 65535 "u16" value).map fun n => UInt16.ofNat n.toNat

/-- Decimal numbers; an integer is one too. -/
def decimal : Codec Decimal where
  print := .decimal
  decode
    | .number (.decimal value) => .ok value
    | .number (.integer value) => .ok (Decimal.normal ⟨value < 0, value.natAbs, 0⟩)
    | other => .error (.unexpected other "f64")

/-- Whether a value stands for nothing: null, or a plain scalar that says so. -/
def isNothing : Value → Bool
  | .null => true
  | .plain scalar => scalar == "~" || scalar == "null"
  | _ => false

/-- Values that may be absent. -/
def optional (codec : Codec α) : Codec (Option α) where
  print
    | none => .null
    | some value => codec.print value
  decode value := if isNothing value then .ok none else (codec.decode value).map some

/-- Decodes the items of a list from the first on. -/
def decodeItems (codec : Codec α) : List Value → Except DecodeError (List α)
  | [] => .ok []
  | item :: rest => do
    let item ← codec.decode item
    let rest ← decodeItems codec rest
    return item :: rest

/-- Lists. -/
def list (codec : Codec α) : Codec (List α) where
  print items := .sequence (items.map codec.print)
  decode
    | .sequence items => decodeItems codec items
    | other => .error (.unexpected other "a sequence")

/-- Sets of texts. -/
def textSet : Codec StringSet where
  print set := .texts set.members
  decode value := ((list text).decode value).map StringSet.ofList

/-- Decodes the values of named entries from the first on. -/
def decodeEntries (codec : Codec α) :
    List (String × Value) → Except DecodeError (List (String × α))
  | [] => .ok []
  | (name, value) :: rest => do
    let value ← codec.decode value
    let rest ← decodeEntries codec rest
    return (name, value) :: rest

/-- Maps keyed by text. -/
def map (codec : Codec α) : Codec (StringMap α) where
  print map := .record (map.entries.map fun (name, value) => (name, codec.print value))
  decode
    | .record fields => (decodeEntries codec fields).map StringMap.ofList
    | other => .error (.unexpected other "a map")

/-- A codec of a type that wraps another. -/
def wrap (codec : Codec α) (into : α → β) (out : β → α) : Codec β where
  print value := codec.print (out value)
  decode value := (codec.decode value).map into

/-- Document values as they are. -/
def raw : Codec Value where
  print := id
  decode := .ok

end Codec

/-- A group of fields of a record type `ρ`, from which a value of type `α` is built. -/
structure Fields (ρ α : Type) where
  /-- The names of the fields as they are declared. -/
  names : List String
  /-- The fields that stand for the group's part of a record. -/
  print : ρ → List (String × Value)
  /-- What must be true of each field that is present. -/
  checks : List (String × (Value → Except DecodeError Unit))
  /-- Builds the value from the fields of a record, given the complaint about a missing one. -/
  build : (String → DecodeError) → List (String × Value) → Except DecodeError α

namespace Fields

variable {ρ α β : Type}

instance : Applicative (Fields ρ) where
  pure value := ⟨[], fun _ => [], [], fun _ _ => .ok value⟩
  seq f x :=
    { names := f.names ++ (x ()).names
      print := fun record => f.print record ++ (x ()).print record
      checks := f.checks ++ (x ()).checks
      build := fun missing fields => do
        let f ← f.build missing fields
        let x ← (x ()).build missing fields
        return f x }

/-- A single field: what it prints, and what becomes of it when it is absent. -/
def one (name : String) (codec : Codec α) (print : ρ → Option Value)
    (absent : DecodeError → Except DecodeError α) : Fields ρ α where
  names := [name]
  print record := (print record).toList.map (name, ·)
  checks := [(name, fun value => (codec.decode value).map fun _ => ())]
  build missing fields :=
    match Value.lookup name fields with
    | some value => codec.decode value
    | none => absent (missing name)

/-- A field that must be present. -/
def required (name : String) (codec : Codec α) (get : ρ → α) : Fields ρ α :=
  one name codec (fun record => some (codec.print (get record))) .error

/-- A field with a value of its own when absent; it is always printed. -/
def defaulted (name : String) (codec : Codec α) (default : α) (get : ρ → α) : Fields ρ α :=
  one name codec (fun record => some (codec.print (get record))) fun _ => .ok default

/-- A field that may be absent or null; it is printed when it has a value. -/
def optional (name : String) (codec : Codec α) (get : ρ → Option α) : Fields ρ (Option α) :=
  one name codec.optional (fun record => (get record).map codec.print) fun _ => .ok none

/-- A text that is empty when absent, and not printed when empty. -/
def textUnlessEmpty (name : String) (get : ρ → String) : Fields ρ String :=
  one name .text (fun record => if get record = "" then none else some (.text (get record)))
    fun _ => .ok ""

/-- A field that takes a value of its own when absent or null; it is always printed. -/
def lenient (name : String) (codec : Codec α) (default : α) (get : ρ → α) : Fields ρ α where
  names := [name]
  print record := [(name, codec.print (get record))]
  checks := [(name, fun value => (codec.optional.decode value).map fun _ => ())]
  build _ fields :=
    match Value.lookup name fields with
    | some value => (codec.optional.decode value).map (·.getD default)
    | none => .ok default

/-- A field that always has one text; it may be absent. -/
def constant (name value : String) : Fields ρ Unit where
  names := [name]
  print _ := [(name, .text value)]
  checks := [(name, fun found => do
    let found ← Codec.text.decode found
    if found = value then .ok () else .error (.wrongValue (.text found) value))]
  build _ _ := .ok ()

/-- The fields of given names that are kept as they come, but for names that are repeated. Nulls are
dropped. -/
def kept (names : List String) (get : ρ → List (String × Value)) :
    Fields ρ (List (String × Value)) where
  names := names
  print := get
  checks := []
  build _ fields := .ok (Value.mergedFields (fields.filter fun (name, value) =>
    names.contains name && !Codec.isNothing value))

/-- Checks a field of a record, unless its name is unknown. -/
def checkField (group : Fields ρ α) (name : String) (value : Value) : Except DecodeError Unit :=
  match group.checks.find? (·.1 == name) with
  | some (_, test) => test value
  | none => .ok ()

/-- Checks the fields of a record in the order in which they are written. -/
def check (group : Fields ρ α) : List (String × Value) → Except DecodeError Unit
  | [] => .ok ()
  | (name, value) :: rest => do
    group.checkField name value
    check group rest

/-- Checks the fields of a record in the order in which they are written. A known one that was seen
before is given twice. -/
def checkOnce (group : Fields ρ α) (seen : List String) :
    List (String × Value) → Except DecodeError Unit
  | [] => .ok ()
  | (name, value) :: rest => do
    if group.names.contains name && seen.contains name then throw (.repeatedField name)
    group.checkField name value
    checkOnce group (name :: seen) rest

/-- A number of elements in words. -/
def elements (count : Nat) : String := s!"{count} element" ++ if count = 1 then "" else "s"

/-- Builds a value from the list of its fields in the order of their declaration. The complaints
about too few and too many of them say what was expected. -/
def decodeInOrder (group : Fields ρ α) (fewer more : String) (items : List Value) :
    Except DecodeError α := do
  let missing := fun field => DecodeError.wrongLength (group.names.idxOf field) fewer
  let fields := group.names.zip items
  group.check fields
  let value ← group.build missing fields
  if group.names.length < items.length then throw (.wrongLength items.length more)
  return value

/-- Builds a value from the fields of a record, none of which may be repeated. -/
def decodeRecord (group : Fields ρ α) (fields : List (String × Value)) :
    Except DecodeError α := do
  group.checkOnce [] fields
  group.build .missingField fields

/-- The codec of a record type, whose name complaints mention. A record may also be written as
the list of its fields in the order of their declaration. -/
def codec (group : Fields α α) (name : String) : Codec α where
  print value := .record (group.print value)
  decode
    | .record fields => group.decodeRecord fields
    | .sequence items =>
      group.decodeInOrder (s!"struct {name} with " ++ elements group.names.length)
        "fewer elements in array" items
    | other => .error (.unexpected other ("struct " ++ name))

/-- The codec of a record type of the cluster's interface. Every field is checked, as it is written,
and of several fields with one name the last counts. -/
def objectCodec (group : Fields α α) (name : String) : Codec α where
  print value := .record (group.print value)
  decode
    | .record fields => do
      group.check fields
      group.build .missingField (StringMap.ofList fields).entries
    | other => .error (.unexpected other name)

end Fields

end StagedTest
