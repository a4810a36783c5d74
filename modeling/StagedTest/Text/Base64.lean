/-!
# Base 64

The bytes of a secret travel as text, three bytes in four symbols. Reading is strict: the text
is padded to whole groups, nothing else stands in it, and the bits that a last symbol leaves
over are zero, so each list of bytes has one text.
-/
namespace StagedTest.Text.Base64

/-- Why a text is not base 64. -/
inductive Fault
  /-- A byte that is not a symbol, or padding before the end. -/
  | strayByte (byte : UInt8) (offset : Nat)
  /-- A single symbol in the last group. -/
  | loneSymbol
  /-- The last symbol carries bits beyond the last byte. -/
  | spareBits (byte : UInt8) (offset : Nat)
  /-- The last group is not padded to four symbols. -/
  | padding
deriving DecidableEq, Repr

/-- The complaint about a text. -/
def Fault.message : Fault → String
  | .strayByte byte offset => s!"Invalid byte {byte}, offset {offset}."
  | .loneSymbol => "Encoded text cannot have a 6-bit remainder."
  | .spareBits byte offset => s!"Invalid last symbol {byte}, offset {offset}."
  | .padding => "Invalid padding"

/-- The symbol of a number below 64. -/
def symbol (n : Nat) : Char :=
  if n < 26 then Char.ofNat (n + 65)
  else if n < 52 then Char.ofNat (n + 71)
  else if n < 62 then Char.ofNat (n - 4)
  else if n = 62 then '+' else '/'

/-- The number of a symbol. -/
def number? (byte : UInt8) : Option Nat :=
  let n := byte.toNat
  if 65 ≤ n ∧ n ≤ 90 then some (n - 65)
  else if 97 ≤ n ∧ n ≤ 122 then some (n - 71)
  else if 48 ≤ n ∧ n ≤ 57 then some (n + 4)
  else if n = 43 then some 62
  else if n = 47 then some 63
  else none

/-- The byte of the padding sign. -/
def pad : UInt8 := 61

/-- Writes bytes, three at a time. -/
def encodeGroups : List UInt8 → List Char
  | a :: b :: c :: rest =>
    let n := a.toNat * 65536 + b.toNat * 256 + c.toNat
    symbol (n / 262144) :: symbol (n / 4096 % 64) :: symbol (n / 64 % 64) :: symbol (n % 64) ::
      encodeGroups rest
  | [a, b] =>
    let n := a.toNat * 1024 + b.toNat * 4
    [symbol (n / 4096), symbol (n / 64 % 64), symbol (n % 64), '=']
  | [a] => [symbol (a.toNat / 4), symbol (a.toNat % 4 * 16), '=', '=']
  | [] => []

/-- The text of a list of bytes. -/
def encode (bytes : List UInt8) : String := String.ofList (encodeGroups bytes)

/-- The numbers of the symbols of a text from a given offset. -/
def numbers (offset : Nat) : List UInt8 → Except Fault (List (UInt8 × Nat))
  | [] => .ok []
  | byte :: rest =>
    match number? byte with
    | none => .error (.strayByte byte offset)
    | some n => (numbers (offset + 1) rest).map ((byte, n) :: ·)

/-- Reads the numbers of symbols from a given offset, four at a time. -/
def decodeGroups (offset : Nat) : List (UInt8 × Nat) → Except Fault (List UInt8)
  | (_, a) :: (_, b) :: (_, c) :: (_, d) :: rest =>
    let n := a * 262144 + b * 4096 + c * 64 + d
    (decodeGroups (offset + 4) rest).map fun bytes =>
      UInt8.ofNat (n / 65536) :: UInt8.ofNat (n / 256 % 256) :: UInt8.ofNat (n % 256) :: bytes
  | [(_, a), (_, b), (byte, c)] =>
    if c % 4 ≠ 0 then .error (.spareBits byte (offset + 2))
    else
      let n := a * 1024 + b * 16 + c / 4
      .ok [UInt8.ofNat (n / 256), UInt8.ofNat (n % 256)]
  | [(_, a), (byte, b)] =>
    if b % 16 ≠ 0 then .error (.spareBits byte (offset + 1))
    else .ok [UInt8.ofNat (a * 4 + b / 16)]
  | [_] => .error .loneSymbol
  | [] => .ok []

/-- The bytes of a text. -/
def decode (text : String) : Except Fault (List UInt8) := do
  let bytes := text.toUTF8.toList
  let padding := (bytes.reverse.takeWhile (· == pad)).length
  let symbols := bytes.take (bytes.length - padding)
  let read ← decodeGroups 0 (← numbers 0 symbols)
  if 2 < padding ∨ (symbols.length + padding) % 4 ≠ 0 then .error .padding
  else .ok read

end StagedTest.Text.Base64
