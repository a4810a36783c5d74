/-!
# Texts with positions

In a YAML text the place of a character counts as much as the character. A text is laid out as
cells, each a character with its line and column; every line end is one cell, and a zero
character ends the text. What follows between the parts of a text is passed over by `skip`.
-/
namespace StagedTest.Yaml

/-- A character at its place. -/
structure Cell where
  /-- The character. -/
  char : Char
  /-- How many characters of the line stand before it. -/
  column : Nat
  /-- How many lines stand before it. -/
  line : Nat
deriving DecidableEq, Inhabited, Repr

/-- Lays out a text from a place on. -/
def layOutFrom (column line : Nat) : List Char → List Cell
  | [] => []
  | '\x00' :: _ => []
  | '\r' :: '\n' :: rest => ⟨'\n', column, line⟩ :: layOutFrom 0 (line + 1) rest
  | '\r' :: rest => ⟨'\n', column, line⟩ :: layOutFrom 0 (line + 1) rest
  | '\n' :: rest => ⟨'\n', column, line⟩ :: layOutFrom 0 (line + 1) rest
  | c :: rest => ⟨c, column, line⟩ :: layOutFrom (column + 1) line rest

/-- A text as cells. -/
def layOut (text : String) : List Cell := layOutFrom 0 0 text.toList

namespace Cell

/-- Whether a cell is a space or a tab. -/
def isBlank (cell : Cell) : Bool := cell.char == ' ' || cell.char == '\t'

/-- Whether a cell is the end of a line. -/
def isBreak (cell : Cell) : Bool := cell.char == '\n'

/-- Whether a cell is white space. -/
def isSpace (cell : Cell) : Bool := cell.isBlank || cell.isBreak

/-- Whether a cell has a meaning of its own between brackets. -/
def isFlowMark (cell : Cell) : Bool := [',', '[', ']', '\x7b', '\x7d'].contains cell.char

end Cell

/-- Whether white space or nothing follows. -/
def atSpace : List Cell → Bool
  | [] => true
  | cell :: _ => cell.isSpace

/-- Whether three characters stand alone at the beginning of a line. -/
def isMark (mark : Char) : List Cell → Bool
  | a :: b :: c :: rest =>
    a.column == 0 && a.char == mark && b.char == mark && c.char == mark && atSpace rest
  | _ => false

/-- Whether a document begins or ends here. -/
def atDocumentMark (cells : List Cell) : Bool := isMark '-' cells || isMark '.' cells

/-- Whether a mark with white space behind it comes next. -/
def atIndicator (mark : Char) : List Cell → Bool
  | cell :: rest => cell.char == mark && atSpace rest
  | [] => false

/-- The rest of the line up to its end is dropped. -/
def dropLine (cells : List Cell) : List Cell := cells.dropWhile (!·.isBreak)

/-- Passes over white space, line ends and comments. Tabs count as white space where nothing
can begin that is told by its column: between brackets, and behind something on its line. -/
def skipFrom (flow : Bool) : (tabs inComment : Bool) → List Cell → List Cell
  | _, _, [] => []
  | tabs, inComment, cell :: rest =>
    if cell.isBreak then skipFrom flow flow false rest
    else if inComment then skipFrom flow tabs true rest
    else if cell.char == ' ' || (tabs && cell.char == '\t') then skipFrom flow tabs false rest
    else if cell.char == '#' then skipFrom flow tabs true rest
    else cell :: rest

/-- Passes over what may stand between the brackets' parts. -/
def skipInFlow (cells : List Cell) : List Cell := skipFrom true true false cells

/-- Passes over what may stand behind something on its line, and then between lines. -/
def skipBehind (cells : List Cell) : List Cell := skipFrom false true false cells

/-- Passes over what may stand between lines. -/
def skipLines (cells : List Cell) : List Cell := skipFrom false false false cells

/-- The line of the next cell. -/
def nextLine? (cells : List Cell) : Option Nat := cells.head?.map (·.line)

/-- Whether content comes next that stands at a column or right of it. -/
def contentFrom (least : Nat) : List Cell → Bool
  | [] => false
  | cell :: rest => !atDocumentMark (cell :: rest) && decide (least ≤ cell.column)

/-- Whether the colon of a key comes next. Between brackets it may also stand before a mark, and
right behind a quoted key. -/
def atColon (flow behindQuote : Bool) : List Cell → Bool
  | cell :: rest =>
    cell.char == ':' &&
      (atSpace rest || (flow && (behindQuote || rest.head?.any (·.isFlowMark))))
  | [] => false

/-- How long a key may be. -/
def keyLength : Nat := 1024

/-- What follows the colon, if what was read from a cell on is a key: the colon stands on the
same line, and not too far away. -/
def afterColon? (flow behindQuote : Bool) (start : Cell) (cells : List Cell) :
    Option (List Cell) :=
  let ahead := cells.dropWhile (·.isBlank)
  match ahead with
  | colon :: rest =>
    if colon.line = start.line ∧ colon.column ≤ start.column + keyLength ∧
        atColon flow (behindQuote && ahead.length == cells.length) ahead then
      some rest
    else none
  | [] => none

end StagedTest.Yaml
