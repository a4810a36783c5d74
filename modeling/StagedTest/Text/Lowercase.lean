import StagedTest.Text.Lowercase.Table

/-!
# Lower case

The lower-case form of a text, letter by letter, over all of Unicode. Two letters are special:
a capital I with a dot becomes two characters, and a capital sigma takes its final form at the
end of a word, that is after a letter with case and not before one.
-/
namespace StagedTest.Text.Lowercase

/-- Whether one of a list of ranges holds a code point. -/
def inRanges (ranges : List (Nat × Nat)) (n : Nat) : Bool :=
  ranges.any fun (first, last) => first ≤ n && n ≤ last

/-- Whether a run holds a code point. -/
def Run.holds (run : Run) (n : Nat) : Bool :=
  run.first ≤ n && n ≤ run.last && (n - run.first) % run.step == 0

/-- The capital sigma. -/
def capitalSigma : Char := 'Σ'

/-- The lower-case form of a letter that is not a capital sigma. -/
def letter (c : Char) : List Char :=
  if c.toNat < 128 then [c.toLower]
  else if c = 'İ' then ['i', '\u0307']
  else
    match runs.find? (·.holds c.toNat) with
    | some run => [Char.ofNat (c.toNat + run.distance).toNat]
    | none => [c]

/-- Whether the first character that is not passed over is a letter with case. -/
def startsCased (text : List Char) : Bool :=
  match text.dropWhile (inRanges ignoredRanges ·.toNat) with
  | [] => false
  | c :: _ => inRanges casedRanges c.toNat

/-- The lower-case form of a text, given the text before it in reverse. -/
def lowerAfter (before : List Char) : List Char → List Char
  | [] => []
  | c :: rest =>
    let form :=
      if c = capitalSigma then
        if startsCased before && !startsCased rest then ['ς'] else ['σ']
      else letter c
    form ++ lowerAfter (c :: before) rest

end StagedTest.Text.Lowercase

namespace StagedTest.Text

/-- The lower-case form of a text. -/
def lowercase (text : String) : String := String.ofList (Lowercase.lowerAfter [] text.toList)

end StagedTest.Text
