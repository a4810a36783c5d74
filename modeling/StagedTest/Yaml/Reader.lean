import StagedTest.Value
import StagedTest.Yaml.Scalar

/-!
# Reading YAML

A text of one document becomes a document value. Blocks are told by their columns: the entries of
a mapping or a list stand at one column, and what belongs to an entry stands right of it. Scalars
without quotes stay plain, since the field that takes them decides what they are. A record keeps
its fields as they are written, so that a field given twice can be found.
-/
namespace StagedTest.Yaml

/-- The values that have been named so far, the last one first. -/
abbrev Named : Type := List (String × Value)

/-- Reading, which may fail, and which remembers named values. -/
abbrev Reading (α : Type) : Type := StateT Named Option α

namespace Reading

/-- Refuses the text. -/
def refuse {α : Type} : Reading α := failure

/-- The value that was named last with a name. -/
def named (name : String) : Reading Value := do
  match (← get).lookup name with
  | some value => return value
  | none => refuse

/-- Names a value. -/
def remember (name : String) (value : Value) : Reading Unit := modify ((name, value) :: ·)

end Reading

/-- The value of an entry with nothing in it. -/
def nothing : Value := .plain "~"

/-- What stands in front of a value. -/
structure Properties where
  /-- The name that the value gets. -/
  anchor : Option String := none
  /-- What the value is said to be. -/
  tag : Option String := none

namespace Properties

/-- Whether nothing stands in front of a value. -/
def isEmpty (properties : Properties) : Bool :=
  properties.anchor.isNone && properties.tag.isNone

/-- The tags under which a plain scalar keeps its kind open. -/
def openTags : List String := ["!!null", "!!bool", "!!int", "!!float"]

/-- The value as its tag says. -/
def tagged (properties : Properties) : Value → Value
  | .plain scalar =>
    match properties.tag with
    | none => .plain scalar
    | some tag => if openTags.contains tag then .plain scalar else .text scalar
  | value => value

/-- Gives a value its tag and its name. -/
def finish (properties : Properties) (value : Value) : Reading Value := do
  let value := properties.tagged value
  match properties.anchor with
  | some name => Reading.remember name value
  | none => pure ()
  return value

end Properties

/-- Whether a character may stand in the name of a value. -/
def isNameChar (c : Char) : Bool := c.isAlphanum || c == '_' || c == '-'

/-- Reads the name of a value after its mark. -/
def readName? (cells : List Cell) : Option (String × List Cell) :=
  let name := cells.takeWhile fun cell => isNameChar cell.char
  let rest := cells.dropWhile fun cell => isNameChar cell.char
  let ended := atSpace rest ||
    rest.head?.any fun cell => ['?', ':', ',', ']', '\x7d', '%', '@', '\x60'].contains cell.char
  if name.isEmpty || !ended then none else some (String.ofList (name.map (·.char)), rest)

/-- Whether a character may stand in a tag. -/
def isTagChar (c : Char) : Bool := isNameChar c || ";/?:@&=+$,.!~*'()[]%<>".contains c

/-- Reads a tag from its mark on. -/
def readTag? (cells : List Cell) : Option (String × List Cell) :=
  let tag := cells.takeWhile (!·.isSpace)
  if tag.all fun cell => isTagChar cell.char then
    some (String.ofList (tag.map (·.char)), cells.dropWhile (!·.isSpace))
  else none

/-- Passes over white space, and over line ends and comments. -/
def skip (flow : Bool) (cells : List Cell) : List Cell :=
  if flow then skipInFlow cells else skipBehind cells

/-- Reads what stands in front of a value: a name and a tag, in either order. -/
def readProperties? (flow : Bool) (cells : List Cell) : Option (Properties × List Cell) :=
  match cells with
  | ⟨'&', _, _⟩ :: rest => do
    let (anchor, rest) ← readName? rest
    match skip flow rest with
    | ⟨'!', _, _⟩ :: _ =>
      let (tag, rest) ← readTag? (skip flow rest)
      return ({ anchor, tag }, rest)
    | _ => return ({ anchor }, rest)
  | ⟨'!', _, _⟩ :: _ => do
    let (tag, rest) ← readTag? cells
    match skip flow rest with
    | ⟨'&', _, _⟩ :: named =>
      let (anchor, rest) ← readName? named
      return ({ anchor, tag }, rest)
    | _ => return ({ tag }, rest)
  | _ => return ({}, cells)

/-- Whether a plain scalar may begin here. -/
def startsPlain (flow : Bool) (cell : Cell) (rest : List Cell) : Bool :=
  match cell.char with
  | ',' | '[' | ']' | '\x7b' | '\x7d' | '&' | '!' | '%' | '@' | '\x60' => false
  | '-' => !atSpace rest
  | '?' => !flow && !atSpace rest
  | ':' => !atColon flow false (cell :: rest)
  | _ => true

/-- A value that was read, whether it ended with a quote, and what is left. -/
abbrev Found : Type := Value × Bool × List Cell

/-- Reads a scalar or a value named before. -/
def readScalar (flow : Bool) (least : Nat) : List Cell → Reading Found
  | [] => Reading.refuse
  | cell :: rest =>
    match cell.char with
    | '*' => do
      let (name, rest) ← readName? rest
      return (← Reading.named name, false, rest)
    | '\'' => do
      let (chars, rest) ← readSingle [] {} rest
      return (.text (String.ofList chars), true, rest)
    | '"' => do
      let (chars, rest) ← readDouble none [] {} rest
      return (.text (String.ofList chars), true, rest)
    | c =>
      if !flow && (c == '|' || c == '>') then do
        let (chars, rest) ← readBlockScalar (c == '>') least rest
        return (.text (String.ofList chars), false, rest)
      else if startsPlain flow cell rest then do
        let (chars, rest) ← readPlain flow least [] {} (cell :: rest)
        return (.plain (String.ofList chars), false, rest)
      else Reading.refuse

/-- Whether the mark of a list's item comes next one column left of other content. -/
def listFrom (least : Nat) (cells : List Cell) : Bool :=
  atIndicator '-' cells && cells.head?.any (·.column + 1 == least)

/-- The name of a field. -/
def keyText : Value → Reading String
  | .text name | .plain name => return name
  | _ => Reading.refuse

/-- Whether a value between brackets ends before it begins. -/
def atFlowEnd (cells : List Cell) : Bool :=
  cells.head?.any fun cell => [',', ']', '\x7d'].contains cell.char

mutual

/-- Reads what stands on the line of its beginning: a scalar or something in brackets, after its
name and tag. -/
def readInline (flow : Bool) (least : Nat) : Nat → List Cell → Reading Found
  | 0, _ => Reading.refuse
  | steps + 1, cells =>
    if atDocumentMark cells then Reading.refuse
    else
      match cells with
      | ⟨'[', _, _⟩ :: rest => do
        let (items, rest) ← readFlowItems least steps (skipInFlow rest)
        return (.sequence items, false, rest)
      | ⟨'\x7b', _, _⟩ :: rest => do
        let (fields, rest) ← readFlowFields least steps (skipInFlow rest)
        return (.record fields, false, rest)
      | cells => readScalar flow least cells

/-- Reads a value between brackets. -/
def readFlowNode (least : Nat) : Nat → List Cell → Reading Found
  | 0, _ => Reading.refuse
  | steps + 1, cells => do
    let (properties, rest) ← readProperties? true cells
    if properties.isEmpty then readInline true least steps rest
    else
      let rest := skipInFlow rest
      if atFlowEnd rest || atColon true false rest then
        return (← properties.finish (.plain ""), false, rest)
      else
        let (value, quoted, rest) ← readInline true least steps rest
        return (← properties.finish value, quoted, rest)

/-- Reads the value of a field between brackets after its colon. -/
def readFlowValue (least : Nat) : Nat → List Cell → Reading (Value × List Cell)
  | 0, _ => Reading.refuse
  | steps + 1, cells => do
    let cells := skipInFlow cells
    if atFlowEnd cells then return (nothing, cells)
    else
      let (value, _, rest) ← readFlowNode least steps cells
      return (value, rest)

/-- Reads the name of a field between brackets that is marked as one, and its value. -/
def readMarkedField (least : Nat) : Nat → List Cell → Reading ((String × Value) × List Cell)
  | 0, _ => Reading.refuse
  | steps + 1, cells => do
    let cells := skipInFlow cells
    let (key, rest) ←
      if atFlowEnd cells || atColon true false cells then pure (nothing, cells)
      else do
        let (key, _, rest) ← readFlowNode least steps cells
        pure (key, skipInFlow rest)
    let name ← keyText key
    if atColon true false rest then do
      let (value, rest) ← readFlowValue least steps (rest.drop 1)
      return ((name, value), rest)
    else return ((name, nothing), rest)

/-- Reads the items of a list in brackets. An item with a colon is a record of one field. -/
def readFlowItems (least : Nat) : Nat → List Cell → Reading (List Value × List Cell)
  | 0, _ => Reading.refuse
  | _ + 1, [] => Reading.refuse
  | steps + 1, start :: cells => do
    if start.char = ']' then return ([], cells)
    let (item, rest) ←
      if start.char = '?' then do
        let (field, rest) ← readMarkedField least steps cells
        pure (.record [field], rest)
      else do
        let (value, quoted, rest) ← readFlowNode least steps (start :: cells)
        match afterColon? true quoted start rest with
        | none => pure (value, rest)
        | some rest => do
          let name ← keyText value
          let (value, rest) ← readFlowValue least steps rest
          pure (.record [(name, value)], rest)
    match skipInFlow rest with
    | ⟨',', _, _⟩ :: rest => do
      let (items, rest) ← readFlowItems least steps (skipInFlow rest)
      return (item :: items, rest)
    | ⟨']', _, _⟩ :: rest => return ([item], rest)
    | _ => Reading.refuse

/-- Reads the fields of a record in brackets. A field without a colon has nothing in it. -/
def readFlowFields (least : Nat) : Nat → List Cell → Reading (List (String × Value) × List Cell)
  | 0, _ => Reading.refuse
  | _ + 1, [] => Reading.refuse
  | steps + 1, start :: cells => do
    if start.char = '\x7d' then return ([], cells)
    let (field, rest) ←
      if start.char = '?' then readMarkedField least steps cells
      else if atColon true false (start :: cells) then do
        let (value, rest) ← readFlowValue least steps cells
        pure (("~", value), rest)
      else do
        let (key, quoted, rest) ← readFlowNode least steps (start :: cells)
        let name ← keyText key
        match afterColon? true quoted start rest with
        | none => pure ((name, nothing), rest)
        | some rest => do
          let (value, rest) ← readFlowValue least steps rest
          pure ((name, value), rest)
    match skipInFlow rest with
    | ⟨',', _, _⟩ :: rest => do
      let (fields, rest) ← readFlowFields least steps (skipInFlow rest)
      return (field :: fields, rest)
    | ⟨'\x7d', _, _⟩ :: rest => return ([field], rest)
    | _ => Reading.refuse

end

mutual

/-- Reads a value in a block. Something with entries may begin here only at the beginning of a
line or of an entry, and a list may stand one column left of other content where that is said. -/
def readNode (least : Nat) (fresh outdented : Bool) : Nat → List Cell → Reading (Value × List Cell)
  | 0, _ => Reading.refuse
  | _ + 1, [] => Reading.refuse
  | steps + 1, start :: cells => do
    if atIndicator '-' (start :: cells) then
      if !fresh then Reading.refuse
      let (items, rest) ←
        readItems start.column (start.column + 1 == least) steps (start :: cells)
      return (.sequence items, rest)
    else if atIndicator '?' (start :: cells) || atIndicator ':' (start :: cells) then
      if !fresh then Reading.refuse
      let (fields, rest) ← readFields start.column steps (start :: cells)
      return (.record fields, rest)
    else
      let (properties, rest) ← readProperties? false (start :: cells)
      let ahead := if properties.isEmpty then rest else skipBehind rest
      if nextLine? ahead = some start.line then
        let (value, quoted, rest) ← readInline false least steps ahead
        match if fresh then afterColon? false quoted start rest else none with
        | none => return (← properties.finish value, rest)
        | some rest => do
          let name ← keyText (← properties.finish value)
          let (value, rest) ← readFieldValue start.column steps rest
          let (fields, rest) ← readFields start.column steps (skipBehind rest)
          return (.record ((name, value) :: fields), rest)
      else if contentFrom least ahead || (outdented && listFrom least ahead) then do
        let (value, rest) ← readNode least true outdented steps ahead
        return (← properties.finish value, rest)
      else return (← properties.finish (.plain ""), rest)
termination_by structural steps => steps

/-- Reads the value of a field after its colon. -/
def readFieldValue (column : Nat) : Nat → List Cell → Reading (Value × List Cell)
  | 0, _ => Reading.refuse
  | steps + 1, cells => do
    let ahead := skipBehind cells
    let fresh := nextLine? ahead != nextLine? cells
    if contentFrom (column + 1) ahead || listFrom (column + 1) ahead then
      readNode (column + 1) fresh true steps ahead
    else return (nothing, ahead)
termination_by structural steps => steps

/-- Reads what follows a mark that has a line of its own. -/
def readMarked (column : Nat) : Nat → List Cell → Reading (Value × List Cell)
  | 0, _ => Reading.refuse
  | steps + 1, cells => do
    let ahead := skipLines cells
    if contentFrom (column + 1) ahead then readNode (column + 1) true true steps ahead
    else return (nothing, ahead)
termination_by structural steps => steps

/-- Reads the fields of a record at a column. -/
def readFields (column : Nat) : Nat → List Cell → Reading (List (String × Value) × List Cell)
  | 0, _ => Reading.refuse
  | steps + 1, cells =>
    match cells with
    | [] => return ([], [])
    | start :: behind => do
      if atDocumentMark cells || start.column < column then return ([], cells)
      if column < start.column then Reading.refuse
      let (name, rest) ←
        if atIndicator ':' cells then pure ("~", cells)
        else if atIndicator '?' cells then do
          let (key, rest) ← readMarked column steps behind
          pure (← keyText key, skipBehind rest)
        else do
          let (properties, rest) ← readProperties? false cells
          let ahead := if properties.isEmpty then rest else skipBehind rest
          if nextLine? ahead != some start.line then Reading.refuse
          let (key, quoted, rest) ← readInline false (column + 1) steps ahead
          match afterColon? false quoted start rest with
          | none => Reading.refuse
          | some rest => do
            let name ← keyText (← properties.finish key)
            let (value, rest) ← readFieldValue column steps rest
            let (fields, rest) ← readFields column steps (skipBehind rest)
            return ((name, value) :: fields, rest)
      let (value, rest) ←
        if atIndicator ':' rest && rest.head?.any (·.column == column) then
          readMarked column steps (rest.drop 1)
        else pure (nothing, rest)
      let (fields, rest) ← readFields column steps (skipBehind rest)
      return ((name, value) :: fields, rest)
termination_by structural steps => steps

/-- Reads the items of a list at a column. A list that stands as far left as the name of its
field ends where the next field begins. -/
def readItems (column : Nat) (outdented : Bool) : Nat → List Cell →
    Reading (List Value × List Cell)
  | 0, _ => Reading.refuse
  | steps + 1, cells =>
    match cells with
    | [] => return ([], [])
    | start :: behind => do
      if atDocumentMark cells || start.column < column then return ([], cells)
      if column < start.column then Reading.refuse
      if !atIndicator '-' cells then
        if outdented then return ([], cells) else Reading.refuse
      let ahead := skipLines behind
      let (item, rest) ←
        if contentFrom (column + 1) ahead then readNode (column + 1) true false steps ahead
        else pure (nothing, ahead)
      let (items, rest) ← readItems column outdented steps (skipBehind rest)
      return (item :: items, rest)
termination_by structural steps => steps

end

/-- Passes over the marks after a document, behind which nothing may follow. -/
def atEnd : Nat → List Cell → Bool
  | 0, _ => false
  | steps + 1, cells =>
    match skipBehind cells with
    | [] => true
    | rest => isMark '.' rest && atEnd steps (rest.drop 3)

/-- Passes over the lines in front of a document that speak of it. -/
def skipDirectives : Nat → List Cell → Bool × List Cell
  | 0, cells => (false, cells)
  | steps + 1, cells =>
    match skipLines cells with
    | ⟨'%', 0, _⟩ :: rest => (true, (skipDirectives steps (dropLine rest)).2)
    | rest => (false, rest)

/-- Reads the one document of a text. -/
def readDocument (steps : Nat) (cells : List Cell) : Reading Value := do
  let (directed, cells) := skipDirectives steps cells
  let explicit := isMark '-' cells
  if (directed && !explicit) || cells.isEmpty || isMark '.' cells then Reading.refuse
  let (value, rest) ←
    if explicit then
      let ahead := skipBehind (cells.drop 3)
      if contentFrom 0 ahead then
        readNode 0 (nextLine? ahead != nextLine? cells) false steps ahead
      else pure (nothing, ahead)
    else readNode 0 true false steps cells
  if atEnd steps rest then return value else Reading.refuse

/-- The value of a text that holds one document. -/
def parse? (text : String) : Option Value :=
  let cells := layOut text
  ((readDocument (4 * cells.length + 16) cells).run []).map (·.1)

end StagedTest.Yaml
