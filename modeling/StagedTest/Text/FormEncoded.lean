/-!
# Form encoding

A text as the value of a form's field: letters, digits and four marks stand for themselves, a
space is written as a plus sign, and every other byte as a percent sign and two hexadecimal
digits.
-/
namespace StagedTest.Text.FormEncoded

/-- Whether a byte stands for itself. -/
def isPlain (byte : UInt8) : Bool :=
  (48 ≤ byte && byte ≤ 57) || (65 ≤ byte && byte ≤ 90) || (97 ≤ byte && byte ≤ 122) ||
    byte == 42 || byte == 45 || byte == 46 || byte == 95

/-- A hexadecimal digit. -/
def digit (n : Nat) : Char := (Nat.digitChar n).toUpper

/-- The spelling of a byte. -/
def spelling (byte : UInt8) : List Char :=
  if isPlain byte then [Char.ofNat byte.toNat]
  else if byte = 32 then ['+']
  else ['%', digit (byte.toNat / 16), digit (byte.toNat % 16)]

end StagedTest.Text.FormEncoded

namespace StagedTest.Text

/-- A text as the value of a form's field. -/
def formEncoded (text : String) : String :=
  String.ofList (text.toUTF8.toList.flatMap FormEncoded.spelling)

end StagedTest.Text
