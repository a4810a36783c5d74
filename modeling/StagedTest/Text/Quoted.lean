import StagedTest.Text.Quoted.Table

/-!
# Quoted text

Texts from elsewhere are shown in messages between double quotes. Quotes, backslashes, line
ends, tabs and the zero character have short spellings; every other character without a shape
of its own is spelled by its number.
-/
namespace StagedTest.Text.Quoted

/-- Whether a character is spelled by its number. -/
def isShapeless (c : Char) : Bool :=
  shapelessRanges.any fun (first, last) => first ≤ c.toNat && c.toNat ≤ last

/-- The spelling of one character. -/
def spelling (c : Char) : List Char :=
  match c with
  | '"' => ['\\', '"']
  | '\\' => ['\\', '\\']
  | '\n' => ['\\', 'n']
  | '\r' => ['\\', 'r']
  | '\t' => ['\\', 't']
  | '\x00' => ['\\', '0']
  | c =>
    if isShapeless c then ['\\', 'u', '\x7b'] ++ Nat.toDigits 16 c.toNat ++ ['\x7d']
    else [c]

end StagedTest.Text.Quoted

namespace StagedTest.Text

/-- A text between double quotes. -/
def quoted (text : String) : String :=
  String.ofList ('"' :: text.toList.flatMap Quoted.spelling ++ ['"'])

end StagedTest.Text
