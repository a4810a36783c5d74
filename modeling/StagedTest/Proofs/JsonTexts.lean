import StagedTest.Proofs.FieldOrder
import StagedTest.Text.Affix
import StagedTest.Value.Json

/-!
# JSON texts that are read back

A value is written as a JSON text and read from it again. The main statements say that what is read
is the value that was written, and that a value in whose records no name is repeated stays the same
when it is merged, but for the order of the fields.
-/
namespace StagedTest

/-- A value that a JSON text can hold as it is: it has no scalars of no kind and no numbers but
integers of 64 bits, and no record in it has two fields of one name. -/
inductive Value.Writable : Value → Prop
  /-- The absent value. -/
  | null : Writable .null
  /-- A truth value. -/
  | bool (flag : Bool) : Writable (.bool flag)
  /-- An integer. -/
  | integer {n : Int} (low : -((Nat.pow 2 63 : Nat) : Int) ≤ n)
      (high : n < ((Nat.pow 2 64 : Nat) : Int)) : Writable (.integer n)
  /-- A text. -/
  | text (text : String) : Writable (.text text)
  /-- A list of such values. -/
  | sequence {items : List Value} (each : ∀ item ∈ items, Writable item) :
      Writable (.sequence items)
  /-- A record of such values. -/
  | record {fields : List (String × Value)} (once : (fields.map (·.1)).Nodup)
      (each : ∀ field ∈ fields, Writable field.2) : Writable (.record fields)

namespace Json

open Value

/-! ## Strings -/

/-- The digits of a control character stand for it. -/
theorem hexUnit?_control : ∀ code < 32, hexUnit? '0' '0' (Nat.digitChar (code / 16))
    (Nat.digitChar (code % 16)) = some code := by
  decide

/-- A control character is read back from its digits. -/
theorem readString_control {code : Nat} (control : code < 32) (rest : List Char) :
    readString ('\\' :: 'u' :: '0' :: '0' :: Nat.digitChar (code / 16) ::
      Nat.digitChar (code % 16) :: rest) =
    (readString rest).map fun (chars, rest) => (Char.ofNat code :: chars, rest) := by
  rw [readString, hexUnit?_control code control]
  have notHigh : ¬(0xD800 ≤ code ∧ code < 0xDC00) := by omega
  have notLow : ¬(0xDC00 ≤ code ∧ code < 0xE000) := by omega
  simp only [Option.bind_eq_bind, Option.bind_some]
  rw [if_neg notHigh, if_neg notLow]
  cases readString rest <;> rfl

/-- A character that has a letter of its own is read back from it. -/
theorem readString_escaped {letter c : Char} (escaped : escaped? letter = some c)
    (rest : List Char) :
    readString ('\\' :: letter :: rest) =
      (readString rest).map fun (chars, rest) => (c :: chars, rest) := by
  have notUnit : letter ≠ 'u' := by
    rintro rfl
    cases escaped
  rw [readString]
  · rw [escaped]
    cases readString rest <;> rfl
  · intro _ _ _ _ _ same
    exact absurd same notUnit

/-- Any other character is read back as it is. -/
theorem readString_plain {c : Char} (notQuote : c ≠ '"') (notEscape : c ≠ '\\')
    (printable : ¬c.toNat < 32) (rest : List Char) :
    readString (c :: rest) = (readString rest).map fun (chars, rest) => (c :: chars, rest) := by
  rw [readString]
  · rw [if_neg printable]
    cases readString rest <;> rfl
  · exact notQuote
  · intro _ _ _ _ _ same
    exact absurd same notEscape
  · intro _ _ same
    exact absurd same notEscape

/-- A character of a string is read back from its spelling. -/
theorem readString_spelling (c : Char) (rest : List Char) :
    readString (spelling c ++ rest) =
      (readString rest).map fun (chars, rest) => (c :: chars, rest) := by
  rw [spelling.eq_def]
  split
  all_goals try exact readString_escaped rfl rest
  rename_i notQuote notEscape _ _ _ _ _
  split
  · rename_i control
    have read := readString_control control rest
    rwa [Char.ofNat_toNat c] at read
  · rename_i printable
    exact readString_plain notQuote notEscape printable rest

/-- A string is read back after its opening quote. -/
theorem readString_string (text rest : List Char) :
    readString (text.flatMap spelling ++ '"' :: rest) = some (text, rest) := by
  induction text with
  | nil => rfl
  | cons c text ih =>
    rw [List.flatMap_cons, List.append_assoc, readString_spelling, ih]
    rfl

/-- The characters of a string. -/
theorem toList_string (text : String) :
    (string text).toList = '"' :: (text.toList.flatMap spelling ++ ['"']) :=
  String.toList_ofList

/-! ## Integers -/

/-- What may follow a value: a comma, a bracket that closes, or nothing. -/
def Closes (rest : List Char) : Prop := ∀ c ∈ rest.head?, c = ',' ∨ c = ']' ∨ c = '\x7d'

/-- What begins with a comma or with a bracket that closes may follow a value. -/
theorem closes_cons {c : Char} (closing : c = ',' ∨ c = ']' ∨ c = '\x7d') (rest : List Char) :
    Closes (c :: rest) := by
  rintro first ⟨⟩
  exact closing

/-- The characters of a natural number are its digits. -/
theorem toList_toString (n : Nat) : (toString n).toList = Nat.toDigits 10 n := by
  rw [Nat.toString_eq_ofList_toDigits, String.toList_ofList]

/-- The digits of a number stand for it. -/
theorem ofDigits_toDigits (n : Nat) : ofDigits (Nat.toDigits 10 n) = n := by
  have whole := Nat.ofDigitChars_ten_toDigits (n := n)
  rw [Nat.ofDigitChars_eq_foldl] at whole
  refine Eq.trans ?_ whole
  rw [ofDigits]
  congr
  funext value c
  rw [Nat.mul_comm]
  rfl

/-- A digit of a number is a digit. -/
theorem isDigit_of_mem {n : Nat} {c : Char} (member : c ∈ Nat.toDigits 10 n) :
    c.isDigit = true :=
  Nat.isDigit_of_mem_toDigits (by decide) (by decide) member

/-- The digits of a positive number do not begin with zero. -/
theorem head?_toDigits_ne {n : Nat} (positive : 0 < n) :
    (Nat.toDigits 10 n).head? ≠ some '0' := by
  induction n using Nat.strongRecOn with
  | ind n ih =>
    rw [Nat.toDigits_eq_if (by decide)]
    split
    · rename_i small
      have nonzero : ∀ n < 10, 0 < n → n.digitChar ≠ '0' := by decide
      exact fun zero => nonzero n small positive (Option.some.inj zero)
    · rw [List.head?_append_of_ne_nil _ Nat.toDigits_ne_nil]
      exact ih (n / 10) (by omega) (by omega)

/-- A number begins with a digit. -/
theorem exists_toDigits_eq (n : Nat) :
    ∃ digit digits, Nat.toDigits 10 n = digit :: digits ∧ digit.isDigit = true := by
  obtain ⟨digit, digits, written⟩ :=
    List.exists_cons_of_ne_nil (Nat.toDigits_ne_nil (n := n) (b := 10))
  refine ⟨digit, digits, written, isDigit_of_mem (n := n) ?_⟩
  rw [written]
  exact List.mem_cons_self

/-- The digits of a number end where it is closed. -/
theorem span_toDigits (n : Nat) {rest : List Char} (closes : Closes rest) :
    (Nat.toDigits 10 n ++ rest).takeWhile (·.isDigit) = Nat.toDigits 10 n ∧
      (Nat.toDigits 10 n ++ rest).dropWhile (·.isDigit) = rest := by
  refine Text.span_append (fun _ => isDigit_of_mem) fun c first => ?_
  rcases closes c first with rfl | rfl | rfl <;> rfl

/-- The digits of a number are read up to what closes it, after a sign or none. -/
theorem readNumber?_toDigits (n : Nat) {rest : List Char} (closes : Closes rest) :
    readNumber? (Nat.toDigits 10 n ++ rest) = (integerNumber? false n).map (·, rest) ∧
      readNumber? ('-' :: (Nat.toDigits 10 n ++ rest)) =
        (integerNumber? true n).map (·, rest) := by
  obtain ⟨whole, after⟩ := span_toDigits n closes
  have canonical : ¬((Nat.toDigits 10 n).isEmpty = true ∨
      (Nat.toDigits 10 n).head? = some '0' ∧ Nat.toDigits 10 n ≠ ['0']) := by
    rintro (empty | ⟨leading, more⟩)
    · exact Nat.toDigits_ne_nil (List.isEmpty_iff.1 empty)
    · rcases Nat.eq_zero_or_pos n with rfl | positive
      · exact more (Nat.toDigits_zero 10)
      · exact head?_toDigits_ne positive leading
  rw [readNumber?, readNumber?]
  · simp only [whole, after, if_neg canonical, ofDigits_toDigits]
    -- What closes the number is neither a point nor the letter of an exponent.
    have next : rest = [] ∨ ∃ tail, rest = ',' :: tail ∨ rest = ']' :: tail ∨
        rest = '\x7d' :: tail := by
      cases rest with
      | nil => exact .inl rfl
      | cons c tail => exact .inr ⟨tail, by simpa using closes c rfl⟩
    rcases next with rfl | ⟨tail, rfl | rfl | rfl⟩ <;>
      exact ⟨by cases integerNumber? false n <;> rfl, by cases integerNumber? true n <;> rfl⟩
  · intro tail same
    obtain ⟨digit, digits, written, isDigit⟩ := exists_toDigits_eq n
    rw [written] at same
    obtain ⟨rfl, _⟩ := List.cons.inj same
    cases isDigit

/-- The characters of an integer are its digits, after a sign if it is negative. -/
theorem toList_number (n : Int) :
    (number (.integer n)).toList = Nat.toDigits 10 n.natAbs ∧ 0 ≤ n ∨
      (number (.integer n)).toList = '-' :: Nat.toDigits 10 n.natAbs ∧ n < 0 := by
  cases n with
  | ofNat n => exact .inl ⟨toList_toString n, Int.natCast_nonneg n⟩
  | negSucc n =>
    refine .inr ⟨?_, Int.negSucc_lt_zero n⟩
    change ("-" ++ toString (n + 1)).toList = _
    rw [String.toList_append, toList_toString]
    rfl

/-- An integer of 64 bits is read back. -/
theorem readNumber?_integer {n : Int} (low : -((Nat.pow 2 63 : Nat) : Int) ≤ n)
    (high : n < ((Nat.pow 2 64 : Nat) : Int)) {rest : List Char} (closes : Closes rest) :
    readNumber? ((number (.integer n)).toList ++ rest) = some (.integer n, rest) := by
  rcases toList_number n with ⟨written, sign⟩ | ⟨written, sign⟩
  · have fits : n.natAbs < Nat.pow 2 64 := by omega
    rw [written, (readNumber?_toDigits _ closes).1, integerNumber?, if_neg Bool.false_ne_true,
      if_pos fits, Int.natAbs_of_nonneg sign]
    rfl
  · have fits : 0 < n.natAbs ∧ n.natAbs ≤ Nat.pow 2 63 := by omega
    have negated : -(n.natAbs : Int) = n := by omega
    rw [written, List.cons_append, (readNumber?_toDigits _ closes).2, integerNumber?, if_pos rfl,
      if_pos fits, negated]
    rfl

/-! ## Values -/

/-- A value is read back from its text, whatever closes it, given enough steps for its length. -/
def ReadBack (value : Value) : Prop :=
  ∀ steps rest, Closes rest → 2 * (render value).toList.length ≤ steps →
    readValue? steps ((render value).toList ++ rest) = some (value, rest)

/-- What a value begins with: no blank, and no bracket that closes. -/
def Opens (c : Char) : Prop := c ≠ ']' ∧ ¬(c = ' ' ∨ c = '\n' ∨ c = '\t' ∨ c = '\r')

/-- A digit may open a value. -/
theorem opens_of_isDigit {c : Char} (digit : c.isDigit = true) : Opens c := by
  constructor
  · rintro rfl
    cases digit
  · rintro (rfl | rfl | rfl | rfl) <;> cases digit

/-- The text of a value begins like a value. -/
theorem head_render {value : Value} (writable : value.Writable) :
    ∃ c tail, (render value).toList = c :: tail ∧ Opens c := by
  have bracketed : ∀ (left right : String) (inner : String) (c : Char), left.toList = [c] →
      (left ++ inner ++ right).toList = c :: (inner ++ right).toList := by
    intro left right inner c one
    rw [String.append_assoc, String.toList_append, one]
    rfl
  cases writable with
  | null => exact ⟨'n', _, rfl, by simp [Opens]⟩
  | bool flag =>
    cases flag with
    | false => exact ⟨'f', _, rfl, by simp [Opens]⟩
    | true => exact ⟨'t', _, rfl, by simp [Opens]⟩
  | @integer n low high =>
    obtain ⟨digit, digits, written, isDigit⟩ := exists_toDigits_eq n.natAbs
    rcases toList_number n with ⟨text, _⟩ | ⟨text, _⟩
    · exact ⟨digit, digits, text.trans written, opens_of_isDigit isDigit⟩
    · exact ⟨'-', _, text, by simp [Opens]⟩
  | text text => exact ⟨'"', _, toList_string text, by simp [Opens]⟩
  | sequence each => exact ⟨'[', _, bracketed "[" "]" _ _ rfl, by simp [Opens]⟩
  | record once each => exact ⟨'\x7b', _, bracketed "\x7b" "\x7d" _ _ rfl, by simp [Opens]⟩

/-- No blank is dropped in front of a value. -/
theorem skipBlank_of_opens {c : Char} (opens : Opens c) (tail : List Char) :
    skipBlank (c :: tail) = c :: tail := by
  rw [skipBlank, List.dropWhile_cons_of_neg]
  simpa [and_assoc] using opens.2

/-- The text of a value is not empty. -/
theorem length_render_pos {value : Value} (writable : value.Writable) :
    0 < (render value).toList.length := by
  obtain ⟨c, tail, written, _⟩ := head_render writable
  rw [written]
  exact Nat.succ_pos _

/-- No blank is dropped in front of the text of a value. -/
theorem skipBlank_render {value : Value} (writable : value.Writable) (rest : List Char) :
    skipBlank ((render value).toList ++ rest) = (render value).toList ++ rest := by
  obtain ⟨c, tail, written, opens⟩ := head_render writable
  rw [written]
  exact skipBlank_of_opens opens (tail ++ rest)

/-- The absent value is read back. -/
theorem readBack_null : ReadBack .null := by
  intro steps rest _ enough
  obtain ⟨steps, rfl⟩ := Nat.exists_eq_add_one.2 (Nat.lt_of_lt_of_le (by decide) enough)
  rfl

/-- Truth values are read back. -/
theorem readBack_bool (flag : Bool) : ReadBack (.bool flag) := by
  intro steps rest _ enough
  cases flag <;>
  · obtain ⟨steps, rfl⟩ := Nat.exists_eq_add_one.2 (Nat.lt_of_lt_of_le (by decide) enough)
    rfl

/-- Texts are read back. -/
theorem readBack_text (text : String) : ReadBack (.text text) := by
  intro steps rest _ enough
  have written : (render (.text text)).toList = '"' :: (text.toList.flatMap spelling ++ ['"']) :=
    toList_string text
  rw [written] at enough ⊢
  obtain ⟨steps, rfl⟩ := Nat.exists_eq_add_one.2 (Nat.lt_of_lt_of_le (by simp) enough)
  rw [List.cons_append, readValue?, List.append_assoc]
  change (readString (text.toList.flatMap spelling ++ '"' :: rest)).map _ = _
  rw [readString_string]
  change some (Value.text (String.ofList text.toList), rest) = _
  rw [String.ofList_toList]

/-- Integers of 64 bits are read back. -/
theorem readBack_integer {n : Int} (low : -((Nat.pow 2 63 : Nat) : Int) ≤ n)
    (high : n < ((Nat.pow 2 64 : Nat) : Int)) : ReadBack (.integer n) := by
  intro steps rest closes enough
  have read : readNumber? ((render (.integer n)).toList ++ rest) = some (.integer n, rest) :=
    readNumber?_integer low high closes
  have starts : ∀ c ∈ ((render (.integer n)).toList ++ rest).head?, c.isDigit ∨ c = '-' := by
    obtain ⟨digit, digits, first, isDigit⟩ := exists_toDigits_eq n.natAbs
    change ∀ c ∈ ((number (.integer n)).toList ++ rest).head?, _
    rcases toList_number n with ⟨written, _⟩ | ⟨written, _⟩
    · rw [written, first]
      rintro c ⟨⟩
      exact .inl isDigit
    · rw [written]
      rintro c ⟨⟩
      exact .inr rfl
  have unblank := skipBlank_render (.integer low high) rest
  have nonempty := length_render_pos (.integer low high)
  obtain ⟨steps, rfl⟩ := Nat.exists_eq_add_one.2 (show 0 < steps by omega)
  generalize (render (.integer n)).toList ++ rest = text at *
  rw [readValue?, unblank]
  -- The other kinds of value begin with characters of their own.
  split
  case h_1 => cases read
  case h_8 =>
    rw [read]
    rfl
  all_goals exact absurd (starts _ rfl) (by decide)

/-- The text of several items is that of the first and then that of the others. -/
theorem renderItems_cons (item next : Value) (others : List Value) :
    (renderItems (item :: next :: others)).toList =
      (render item).toList ++ ',' :: (renderItems (next :: others)).toList := by
  rw [renderItems, String.toList_append, String.toList_append, List.append_assoc]
  · rfl
  · exact List.cons_ne_nil _ _

/-- The items of a list are read back one after the other. -/
theorem readItems?_render {items : List Value} (some : items ≠ [])
    (each : ∀ item ∈ items, ReadBack item) (steps : Nat) (rest : List Char)
    (enough : 2 * (renderItems items).toList.length + 1 ≤ steps) :
    readItems? steps ((renderItems items).toList ++ ']' :: rest) = .some (items, rest) := by
  induction items generalizing steps with
  | nil => exact absurd rfl some
  | cons item others ih =>
    obtain ⟨steps, rfl⟩ := Nat.exists_eq_add_one.2 (Nat.lt_of_lt_of_le (Nat.succ_pos _) enough)
    have head := each item List.mem_cons_self
    cases others with
    | nil =>
      rw [renderItems] at enough ⊢
      have closes : Closes (']' :: rest) := closes_cons (.inr (.inl rfl)) rest
      rw [readItems?, head steps (']' :: rest) closes (by omega)]
      rfl
    | cons next others =>
      rw [renderItems_cons] at enough ⊢
      rw [List.length_append, List.length_cons] at enough
      have first := head steps (',' :: ((renderItems (next :: others)).toList ++ ']' :: rest))
        (closes_cons (.inl rfl) _) (by omega)
      have later := ih (List.cons_ne_nil _ _)
        (fun item member => each item (List.mem_cons_of_mem _ member)) steps (by omega)
      rw [List.append_assoc, List.cons_append, readItems?, first]
      change (readItems? steps _).map _ = _
      rw [later]
      rfl

/-- The text of a list is not empty when the list is not, and begins like a value. -/
theorem head_renderItems {items : List Value} (some : items ≠ [])
    (each : ∀ item ∈ items, item.Writable) :
    ∃ c tail, (renderItems items).toList = c :: tail ∧ Opens c := by
  obtain ⟨item, others, rfl⟩ := List.exists_cons_of_ne_nil some
  obtain ⟨c, tail, first, opens⟩ := head_render (each item List.mem_cons_self)
  cases others with
  | nil => exact ⟨c, tail, first, opens⟩
  | cons next others =>
    refine ⟨c, tail ++ ',' :: (renderItems (next :: others)).toList, ?_, opens⟩
    rw [renderItems_cons, first, List.cons_append]

/-- Lists are read back. -/
theorem readBack_sequence {items : List Value}
    (each : ∀ item ∈ items, item.Writable ∧ ReadBack item) : ReadBack (.sequence items) := by
  intro steps rest _ enough
  have written : (render (.sequence items)).toList =
      '[' :: ((renderItems items).toList ++ [']']) := by
    rw [render, String.toList_append, String.toList_append]
    rfl
  rw [written, List.length_cons, List.length_append] at enough
  obtain ⟨steps, rfl⟩ := Nat.exists_eq_add_one.2 (show 0 < steps by omega)
  rw [written, List.cons_append, List.append_assoc, readValue?]
  cases items with
  | nil => rfl
  | cons item others =>
    have some := List.cons_ne_nil item others
    have found := readItems?_render some (fun item member => (each item member).2) steps rest
      (by omega)
    obtain ⟨c, tail, first, opens⟩ := head_renderItems some fun item member => (each item member).1
    rw [first, List.cons_append] at found ⊢
    have bracket := skipBlank_of_opens (c := '[') (by simp [Opens])
    simp only [bracket, skipBlank_of_opens opens, List.cons_append, List.nil_append]
    split
    · rename_i same
      exact absurd (List.cons.inj same).1 opens.1
    · rw [found]
      rfl

/-! ## Records -/

/-- The characters of a field. -/
def fieldText (name : String) (value : Value) : List Char :=
  '"' :: (name.toList.flatMap spelling ++ '"' :: ':' :: (render value).toList)

/-- The text of a single field. -/
theorem renderFields_singleton (name : String) (value : Value) :
    (renderFields [(name, value)]).toList = fieldText name value := by
  rw [renderFields, String.toList_append, String.toList_append, toList_string, fieldText]
  simp

/-- The text of several fields is that of the first and then that of the others. -/
theorem renderFields_cons (name : String) (value : Value) (next : String × Value)
    (others : List (String × Value)) :
    (renderFields ((name, value) :: next :: others)).toList =
      fieldText name value ++ ',' :: (renderFields (next :: others)).toList := by
  rw [renderFields, String.toList_append, String.toList_append, String.toList_append,
    String.toList_append, toList_string, fieldText]
  · simp
  · exact List.cons_ne_nil _ _

/-- A field begins with its name as a string, and its value follows after a colon. -/
theorem fieldText_append (name : String) (value : Value) (rest : List Char) :
    fieldText name value ++ rest = '"' :: (name.toList.flatMap spelling ++
      '"' :: (':' :: ((render value).toList ++ rest))) := by
  simp [fieldText]

/-- The last field is read up to the brace that closes its record. -/
theorem readFields?_last {steps : Nat} {name : String} {value : Value} {rest : List Char}
    (found : readValue? steps ((render value).toList ++ '\x7d' :: rest) =
      some (value, '\x7d' :: rest)) :
    readFields? (steps + 1) (fieldText name value ++ '\x7d' :: rest) =
      some ([(name, value)], rest) := by
  have quote := skipBlank_of_opens (c := '"') (by simp [Opens])
  have colon := skipBlank_of_opens (c := ':') (by simp [Opens])
  rw [fieldText_append, readFields?, quote]
  simp only [readString_string, colon, found, String.ofList_toList]
  rfl

/-- A field that a comma follows is read before the others. -/
theorem readFields?_more {steps : Nat} {name : String} {value : Value} {rest : List Char}
    (found : readValue? steps ((render value).toList ++ ',' :: rest) =
      some (value, ',' :: rest)) :
    readFields? (steps + 1) (fieldText name value ++ ',' :: rest) =
      (readFields? steps rest).map fun (fields, rest) => ((name, value) :: fields, rest) := by
  have quote := skipBlank_of_opens (c := '"') (by simp [Opens])
  have colon := skipBlank_of_opens (c := ':') (by simp [Opens])
  rw [fieldText_append, readFields?, quote]
  simp only [readString_string, colon, found, String.ofList_toList]
  rfl

/-- The fields of a record are read back one after the other. -/
theorem readFields?_render {fields : List (String × Value)} (some : fields ≠ [])
    (each : ∀ field ∈ fields, ReadBack field.2) (steps : Nat) (rest : List Char)
    (enough : 2 * (renderFields fields).toList.length + 1 ≤ steps) :
    readFields? steps ((renderFields fields).toList ++ '\x7d' :: rest) =
      .some (fields, rest) := by
  induction fields generalizing steps with
  | nil => exact absurd rfl some
  | cons field others ih =>
    obtain ⟨name, value⟩ := field
    obtain ⟨steps, rfl⟩ := Nat.exists_eq_add_one.2 (Nat.lt_of_lt_of_le (Nat.succ_pos _) enough)
    have long : (render value).toList.length ≤ (fieldText name value).length := by
      simp [fieldText]
      omega
    have head : ReadBack value := each (name, value) List.mem_cons_self
    cases others with
    | nil =>
      rw [renderFields_singleton] at enough ⊢
      have closes : Closes ('\x7d' :: rest) := closes_cons (.inr (.inr rfl)) rest
      exact readFields?_last (head steps ('\x7d' :: rest) closes (by omega))
    | cons next others =>
      rw [renderFields_cons] at enough ⊢
      rw [List.length_append, List.length_cons] at enough
      have first := head steps
        (',' :: ((renderFields (next :: others)).toList ++ '\x7d' :: rest))
        (closes_cons (.inl rfl) _) (by omega)
      have later := ih (List.cons_ne_nil _ _)
        (fun field member => each field (List.mem_cons_of_mem _ member)) steps (by omega)
      rw [List.append_assoc, List.cons_append, readFields?_more first, later]
      rfl

/-- Records are read back. -/
theorem readBack_record {fields : List (String × Value)}
    (each : ∀ field ∈ fields, ReadBack field.2) : ReadBack (.record fields) := by
  intro steps rest _ enough
  have written : (render (.record fields)).toList =
      '\x7b' :: ((renderFields fields).toList ++ ['\x7d']) := by
    rw [render, String.toList_append, String.toList_append]
    rfl
  rw [written, List.length_cons, List.length_append] at enough
  obtain ⟨steps, rfl⟩ := Nat.exists_eq_add_one.2 (show 0 < steps by omega)
  rw [written, List.cons_append, List.append_assoc, readValue?]
  cases fields with
  | nil => rfl
  | cons field others =>
    have found := readFields?_render (List.cons_ne_nil field others) each steps rest (by omega)
    have first : ∃ tail, (renderFields (field :: others)).toList = '"' :: tail := by
      cases others with
      | nil => exact ⟨_, renderFields_singleton field.1 field.2⟩
      | cons next others => exact ⟨_, renderFields_cons field.1 field.2 next others⟩
    obtain ⟨tail, first⟩ := first
    rw [first, List.cons_append] at found ⊢
    change (readFields? steps ('"' :: (tail ++ '\x7d' :: rest))).map _ = _
    rw [found]
    rfl

/-- A value that a JSON text can hold is read back from its text. -/
theorem readBack {value : Value} (writable : value.Writable) : ReadBack value := by
  induction writable with
  | null => exact readBack_null
  | bool flag => exact readBack_bool flag
  | integer low high => exact readBack_integer low high
  | text text => exact readBack_text text
  | sequence each ih =>
    exact readBack_sequence fun item member => ⟨each item member, ih item member⟩
  | record _ _ ih => exact readBack_record ih

/-- Reading the text of a value as it is written gives that value. -/
theorem read?_render {value : Value} (writable : value.Writable) :
    read? (render value) = some value := by
  have found := readBack writable (2 * (render value).toList.length + 2) []
    (fun c member => nomatch member) (by omega)
  rw [List.append_nil] at found
  rw [read?, found]
  rfl

/-! ## Merging -/

/-- A value in whose records no name is repeated is only reordered when it is merged. -/
theorem reordered_merged {value : Value} (writable : value.Writable) :
    Reordered value value.merged := by
  induction writable with
  | null | bool | integer | text => exact .same _
  | sequence each ih =>
    rw [merged, mergedItems_eq_map]
    exact .sequence (List.forall₂_map_right_iff.2 (List.forall₂_same.2 ih))
  | @record fields once each ih =>
    have same : List.Forall₂ ReorderedField fields (mergedFields fields) := by
      rw [mergedFields_eq_map]
      exact List.forall₂_map_right_iff.2
        (List.forall₂_same.2 fun field member => ⟨rfl, ih field member⟩)
    have names := (forall₂_reorderedField_iff.1 same).1
    have sorted := StringMap.entries_ofList_perm (names ▸ once)
    rw [merged]
    exact reordered_record_iff.2 ⟨_, _, rfl, same, sorted.symm⟩

/-- Reading the text of a value gives that value, with the fields of its records in some order. -/
theorem parse?_render {value : Value} (writable : value.Writable) :
    ∃ read, Reordered value read ∧ parse? (render value) = some read := by
  refine ⟨value.merged, reordered_merged writable, ?_⟩
  rw [parse?, read?_render writable]
  rfl

end Json

end StagedTest
