import StagedTest.Yaml.Cell

/-!
# Scalars

Single values of a YAML text, in their four ways of being written: plain, between single or
double quotes, and as a block of lines. Each reader gives the characters and what is left of the
text. Line ends inside a plain or quoted scalar fold: one becomes a space, and of several the
first is dropped.
-/
namespace StagedTest.Yaml

/-- White space in a scalar, of which is not yet known whether something follows. -/
structure Gap where
  /-- The blanks of the first line, the last one first. -/
  blanks : List Char := []
  /-- Whether there was a line end. -/
  broken : Bool := false
  /-- Whether the first line end is dropped without a space in its place. -/
  joined : Bool := false
  /-- The line ends besides the first. -/
  breaks : Nat := 0

namespace Gap

/-- A gap with one more blank; those after a line end do not count. -/
def addBlank (gap : Gap) (c : Char) : Gap :=
  if gap.broken then gap else { gap with blanks := c :: gap.blanks }

/-- A gap with one more line end. -/
def addBreak (gap : Gap) : Gap :=
  if gap.broken then { gap with breaks := gap.breaks + 1 } else { broken := true }

/-- What a gap leaves in the scalar, the last character first. -/
def fold (gap : Gap) : List Char :=
  if gap.broken then
    if gap.breaks = 0 ∧ !gap.joined then [' '] else List.replicate gap.breaks '\n'
  else gap.blanks

end Gap

/-- Whether a plain scalar ends at a cell. -/
def endsPlain (flow : Bool) (cell : Cell) (rest : List Cell) : Bool :=
  (cell.char == ':' && (atSpace rest || (flow && rest.head?.any (·.isFlowMark)))) ||
    (flow && cell.isFlowMark)

/-- Reads a plain scalar whose characters so far are given, the last one first. Outside of
brackets its later lines stand at a column or right of it. -/
def readPlain (flow : Bool) (least : Nat) :
    List Char → Gap → List Cell → Option (List Char × List Cell)
  | done, _, [] => some (done.reverse, [])
  | done, gap, cell :: rest =>
    if cell.isBlank then
      if gap.broken ∧ cell.char = '\t' ∧ cell.column < least then none
      else readPlain flow least done (gap.addBlank cell.char) rest
    else if cell.isBreak then readPlain flow least done gap.addBreak rest
    else if (gap.broken && ((!flow && decide (cell.column < least)) ||
        atDocumentMark (cell :: rest))) ||
        ((gap.broken || !gap.blanks.isEmpty) && cell.char == '#') ||
        endsPlain flow cell rest then
      some (done.reverse, cell :: rest)
    else readPlain flow least (cell.char :: (gap.fold ++ done)) {} rest

/-- Reads a scalar between single quotes after the first one. A quote inside is written twice. -/
def readSingle : List Char → Gap → List Cell → Option (List Char × List Cell)
  | _, _, [] => none
  | done, gap, cell :: rest =>
    if cell.isBlank then readSingle done (gap.addBlank cell.char) rest
    else if cell.isBreak then readSingle done gap.addBreak rest
    else if atDocumentMark (cell :: rest) then none
    else if cell.char = '\'' then
      match rest with
      | ⟨'\'', _, _⟩ :: rest => readSingle ('\'' :: (gap.fold ++ done)) {} rest
      | rest => some ((gap.fold ++ done).reverse, rest)
    else readSingle (cell.char :: (gap.fold ++ done)) {} rest

/-- The character that a letter after a backslash stands for. -/
def escaped? : Char → Option Char
  | '0' => some '\x00'
  | 'a' => some '\x07'
  | 'b' => some '\x08'
  | 't' => some '\t'
  | '\t' => some '\t'
  | 'n' => some '\n'
  | 'v' => some '\x0b'
  | 'f' => some '\x0c'
  | 'r' => some '\r'
  | 'e' => some '\x1b'
  | ' ' => some ' '
  | '"' => some '"'
  | '\'' => some '\''
  | '\\' => some '\\'
  | 'N' => some '\u0085'
  | '_' => some '\u00a0'
  | 'L' => some '\u2028'
  | 'P' => some '\u2029'
  | _ => none

/-- How many digits follow a letter after a backslash that begins a number. -/
def escapeDigits? : Char → Option Nat
  | 'x' => some 2
  | 'u' => some 4
  | 'U' => some 8
  | _ => none

/-- The value of a hexadecimal digit. -/
def hexDigit? (c : Char) : Option Nat :=
  if '0' ≤ c ∧ c ≤ '9' then some (c.toNat - 48)
  else if 'a' ≤ c ∧ c ≤ 'f' then some (c.toNat - 87)
  else if 'A' ≤ c ∧ c ≤ 'F' then some (c.toNat - 55)
  else none

/-- The character of a number. -/
def charOf? (number : Nat) : Option Char :=
  if number.isValidChar then some (Char.ofNat number) else none

/-- A number being read after a backslash. -/
structure Numeral where
  /-- The digits still to come. -/
  left : Nat
  /-- The value of those before. -/
  value : Nat

/-- Reads a scalar between double quotes after the first one. -/
def readDouble : Option Numeral → List Char → Gap → List Cell → Option (List Char × List Cell)
  | _, _, _, [] => none
  | some numeral, done, gap, cell :: rest =>
    match hexDigit? cell.char with
    | none => none
    | some digit =>
      let value := numeral.value * 16 + digit
      if numeral.left ≤ 1 then
        match charOf? value with
        | none => none
        | some c => readDouble none (c :: done) gap rest
      else readDouble (some ⟨numeral.left - 1, value⟩) done gap rest
  | none, done, gap, cell :: rest =>
    if cell.isBlank then readDouble none done (gap.addBlank cell.char) rest
    else if cell.isBreak then readDouble none done gap.addBreak rest
    else if atDocumentMark (cell :: rest) then none
    else if cell.char = '"' then some ((gap.fold ++ done).reverse, rest)
    else if cell.char = '\\' then
      match rest with
      | [] => none
      | letter :: rest =>
        if letter.isBreak then
          readDouble none (gap.fold ++ done) { broken := true, joined := true } rest
        else
          match escapeDigits? letter.char with
          | some digits => readDouble (some ⟨digits, 0⟩) (gap.fold ++ done) {} rest
          | none =>
            match escaped? letter.char with
            | some c => readDouble none (c :: (gap.fold ++ done)) {} rest
            | none => none
    else readDouble none (cell.char :: (gap.fold ++ done)) {} rest

/-- What becomes of the line ends at the end of a block of lines. -/
inductive Chomping
  /-- All are dropped. -/
  | strip
  /-- One is kept. -/
  | clip
  /-- All are kept. -/
  | keep
deriving DecidableEq, Repr

/-- What the first line of a block says of it. -/
structure BlockHeader where
  /-- What becomes of the line ends at its end. -/
  chomping : Chomping := .clip
  /-- How far its lines are indented from what surrounds it, or zero. -/
  indentation : Nat := 0

/-- The way of chomping that a mark says. -/
def chomping? : Char → Option Chomping
  | '+' => some .keep
  | '-' => some .strip
  | _ => none

/-- The indentation that a digit says. -/
def indentation? (c : Char) : Option Nat :=
  if '1' ≤ c ∧ c ≤ '9' then some (c.toNat - 48) else none

/-- Reads what the first line of a block says of it. -/
def readHeader : List Cell → BlockHeader × List Cell
  | [] => ({}, [])
  | first :: rest =>
    match chomping? first.char, indentation? first.char with
    | some chomping, _ =>
      match rest with
      | second :: more =>
        match indentation? second.char with
        | some indentation => (⟨chomping, indentation⟩, more)
        | none => (⟨chomping, 0⟩, rest)
      | [] => (⟨chomping, 0⟩, [])
    | none, some indentation =>
      match rest with
      | second :: more =>
        match chomping? second.char with
        | some chomping => (⟨chomping, indentation⟩, more)
        | none => (⟨.clip, indentation⟩, rest)
      | [] => (⟨.clip, indentation⟩, [])
    | none, none => ({}, first :: rest)

/-- What follows the first line of a block, on which nothing more than a comment may stand. -/
def afterHeader? (cells : List Cell) : Option (List Cell) :=
  let rest := cells.dropWhile (·.isBlank)
  let rest := if rest.head?.any (·.char == '#') then dropLine rest else rest
  match rest with
  | [] => some []
  | cell :: rest => if cell.isBreak then some rest else none

/-- The column of the first line of a block with something on it, or that of the longest line of
spaces before it. A tab may not stand there. -/
def marginOf? (seen : Nat) : List Cell → Option Nat
  | [] => some seen
  | cell :: rest =>
    if cell.char = ' ' then marginOf? (max seen (cell.column + 1)) rest
    else if cell.isBreak then marginOf? seen rest
    else if cell.char = '\t' then none
    else some (max seen cell.column)

/-- A block of lines being read. -/
structure Block where
  /-- The characters so far, the last one first. -/
  done : List Char := []
  /-- Whether the last line has ended. -/
  broken : Bool := false
  /-- The empty lines after it. -/
  empty : Nat := 0
  /-- Whether the last line began with a blank. -/
  indented : Bool := false

namespace Block

/-- The block at the beginning of a line. Between two lines that do not begin with a blank a
folded block has a space instead of the line end. -/
def startLine (folded indented : Bool) (block : Block) : Block :=
  let ends :=
    if !block.broken then []
    else if folded && !block.indented && !indented then
      if block.empty = 0 then [' '] else []
    else ['\n']
  { done := List.replicate block.empty '\n' ++ (ends ++ block.done), indented }

/-- The characters of a block that has come to its end. -/
def finish (chomping : Chomping) (block : Block) : List Char :=
  let last := if block.broken then ['\n'] else []
  match chomping with
  | .strip => block.done.reverse
  | .clip => (last ++ block.done).reverse
  | .keep => (List.replicate block.empty '\n' ++ (last ++ block.done)).reverse

end Block

/-- Reads the lines of a block that are indented to a margin. -/
def readBlockLines (folded : Bool) (margin : Nat) :
    (inLine : Bool) → Block → List Cell → Option (Block × List Cell)
  | _, block, [] => some (block, [])
  | true, block, cell :: rest =>
    if cell.isBreak then readBlockLines folded margin false { block with broken := true } rest
    else readBlockLines folded margin true { block with done := cell.char :: block.done } rest
  | false, block, cell :: rest =>
    if cell.isBreak then
      readBlockLines folded margin false { block with empty := block.empty + 1 } rest
    else if cell.column < margin then
      if cell.char = ' ' then readBlockLines folded margin false block rest
      else if cell.char = '\t' then none
      else some (block, cell :: rest)
    else if cell.column = margin then
      let block := block.startLine folded cell.isBlank
      readBlockLines folded margin true { block with done := cell.char :: block.done } rest
    else some (block, cell :: rest)

/-- Reads a block of lines after its mark. -/
def readBlockScalar (folded : Bool) (least : Nat) (cells : List Cell) :
    Option (List Char × List Cell) := do
  let (header, rest) := readHeader cells
  let rest ← afterHeader? rest
  let margin ←
    if header.indentation = 0 then (marginOf? 0 rest).map fun seen => max 1 (max seen least)
    else some (least - 1 + header.indentation)
  let (block, rest) ← readBlockLines folded margin false {} rest
  return (block.finish header.chomping, rest)

end StagedTest.Yaml
