import StagedTest.Proofs.StepYields
import StagedTest.Text.Affix

/-!
# How quantities are written

A quantity is a sign or none, a number, and a unit or a power of ten or neither. Here each of these
is a type of its own, whose values are exactly what may be written, so that a form is a way to read
a text as a quantity. The main statements say that the texts that are taken for quantities are those
of forms, that each of them is the text of one form only, and that the amounts of a step reach the
container of its pod as they are, or else the step is reported.
-/
namespace StagedTest.Quantity

/-! ## Forms -/

/-- Decimal digits, or none. -/
@[ext]
structure Digits where
  /-- The digits. -/
  text : List Char
  /-- Each of them is one. -/
  decimal : ∀ c ∈ text, '0' ≤ c ∧ c ≤ '9'

/-- Decimal digits, of which there is at least one. -/
@[ext]
structure Numeral extends Digits where
  /-- There is a digit. -/
  nonempty : text ≠ []

/-- A sign or none. -/
inductive Sign
  /-- No sign. -/
  | none
  /-- The sign of positive numbers. -/
  | plus
  /-- The sign of negative numbers. -/
  | minus

/-- How a sign is written. -/
def Sign.text : Sign → List Char
  | .none => []
  | .plus => ['+']
  | .minus => ['-']

/-- A number without a sign. -/
inductive Number
  /-- Digits without a point. -/
  | whole (digits : Numeral)
  /-- Digits with a point and further digits or none. -/
  | pointed (digits : Numeral) (behind : Digits)
  /-- A point and digits. -/
  | fraction (digits : Numeral)

/-- How a number is written. -/
def Number.text : Number → List Char
  | .whole digits => digits.text
  | .pointed digits behind => digits.text ++ '.' :: behind.text
  | .fraction digits => '.' :: digits.text

/-- What may follow the number of a quantity. -/
inductive Suffix
  /-- Nothing. -/
  | none
  /-- A power of two. -/
  | binary (unit : { c : Char // c ∈ ['K', 'M', 'G', 'T', 'P', 'E'] })
  /-- A power of ten with a name. -/
  | decimal (unit : { c : Char // c ∈ ['n', 'u', 'm', 'k', 'M', 'G', 'T', 'P', 'E'] })
  /-- A power of ten with its exponent. -/
  | exponent (mark : { c : Char // c ∈ ['e', 'E'] }) (sign : Sign) (digits : Numeral)

/-- How a suffix is written. -/
def Suffix.text : Suffix → List Char
  | .none => []
  | .binary unit => [unit.1, 'i']
  | .decimal unit => [unit.1]
  | .exponent mark sign digits => mark.1 :: (sign.text ++ digits.text)

/-- A quantity as it is written. -/
@[ext]
structure Form where
  /-- The sign. -/
  sign : Sign
  /-- The number. -/
  number : Number
  /-- What follows the number. -/
  suffix : Suffix

/-- How a quantity is written. -/
def Form.text (form : Form) : List Char :=
  form.sign.text ++ (form.number.text ++ form.suffix.text)

/-! ## Digits -/

/-- A digit is a character from zero to nine. -/
theorem isDigit_iff {c : Char} : c.isDigit = true ↔ '0' ≤ c ∧ c ≤ '9' := by
  simp [Char.isDigit, Char.le_def]

/-- Digits are digits. -/
theorem Digits.isDigit (digits : Digits) : ∀ c ∈ digits.text, c.isDigit = true :=
  fun c member => isDigit_iff.2 (digits.decimal c member)

/-- A text of digits only is some digits. -/
theorem exists_digits {text : List Char} (each : ∀ c ∈ text, c.isDigit = true) :
    ∃ digits : Digits, digits.text = text :=
  ⟨⟨text, fun c member => isDigit_iff.1 (each c member)⟩, rfl⟩

/-- There is no point among digits. -/
theorem Digits.point_notMem (digits : Digits) : '.' ∉ digits.text :=
  fun member => absurd (digits.isDigit '.' member) (by decide)

/-- Some text is one digit or more exactly if it is that of a numeral. -/
theorem isDigits_iff {text : List Char} :
    isDigits text = true ↔ ∃ digits : Numeral, digits.text = text := by
  rw [isDigits, Bool.and_eq_true, Bool.not_eq_true', List.isEmpty_eq_false_iff, List.all_eq_true]
  constructor
  · rintro ⟨nonempty, each⟩
    obtain ⟨digits, rfl⟩ := exists_digits each
    exact ⟨⟨digits, nonempty⟩, rfl⟩
  · rintro ⟨digits, rfl⟩
    exact ⟨digits.nonempty, digits.isDigit⟩

/-! ## Signs -/

/-- A text that does not begin with a sign. -/
def Bare (text : List Char) : Prop := ∀ c ∈ text.head?, c ≠ '+' ∧ c ≠ '-'

/-- A text that does not begin with a sign is left as it is. -/
theorem unsigned_of_bare {text : List Char} (bare : Bare text) : unsigned text = text := by
  rw [unsigned.eq_def]
  split
  · exact absurd rfl (bare '+' rfl).1
  · exact absurd rfl (bare '-' rfl).2
  · rfl

/-- What is left of a text without its sign is what follows the sign. -/
theorem unsigned_append (sign : Sign) {rest : List Char} (bare : Bare rest) :
    unsigned (sign.text ++ rest) = rest := by
  cases sign with
  | none => exact unsigned_of_bare bare
  | plus | minus => rfl

/-- Each text is a sign or none and what is left without it. -/
theorem exists_sign (text : List Char) : ∃ sign : Sign, text = sign.text ++ unsigned text := by
  rw [unsigned.eq_def]
  split
  · exact ⟨.plus, rfl⟩
  · exact ⟨.minus, rfl⟩
  · exact ⟨.none, rfl⟩

/-- Signs differ in how they are written. -/
theorem Sign.text_injective : Function.Injective Sign.text := by
  intro sign other same
  cases sign <;> cases other <;> first | rfl | cases same

/-- What follows a sign tells where the sign ends. -/
theorem Sign.append_inj {sign other : Sign} {rest another : List Char} (bare : Bare rest)
    (apart : Bare another) (same : sign.text ++ rest = other.text ++ another) :
    sign = other ∧ rest = another := by
  have left : rest = another := by
    rw [← unsigned_append sign bare, same, unsigned_append other apart]
  subst left
  exact ⟨Sign.text_injective (List.append_cancel_right same), rfl⟩

/-- A text that begins with a digit does not begin with a sign. -/
theorem bare_cons_of_isDigit {c : Char} {rest : List Char} (digit : c.isDigit = true) :
    Bare (c :: rest) := by
  rintro other same
  obtain rfl := Option.some.inj same
  constructor <;> rintro rfl <;> cases digit

/-- Numerals do not begin with a sign, whatever follows them. -/
theorem Numeral.bare (digits : Numeral) (rest : List Char) : Bare (digits.text ++ rest) := by
  obtain ⟨first, others, written⟩ := List.exists_cons_of_ne_nil digits.nonempty
  rw [written]
  exact bare_cons_of_isDigit (digits.isDigit first (by rw [written]; exact List.mem_cons_self))

/-- Numerals do not begin with a sign. -/
theorem Numeral.bare_text (digits : Numeral) : Bare digits.text := by
  have bare := digits.bare []
  rwa [List.append_nil] at bare

/-! ## Numbers -/

/-- Numbers do not begin with a sign, whatever follows them. -/
theorem Number.bare (number : Number) (rest : List Char) : Bare (number.text ++ rest) := by
  cases number with
  | whole digits => exact digits.bare rest
  | pointed digits behind =>
    rw [Number.text, List.append_assoc]
    exact digits.bare _
  | fraction digits =>
    intro c same
    obtain rfl : '.' = c := Option.some.inj same
    exact ⟨by decide, by decide⟩

/-- A text that does not begin with a digit. -/
def EndsDigits (rest : List Char) : Prop := ∀ c ∈ rest.head?, c.isDigit = false

/-- Each text is some digits and what does not begin with a digit. -/
theorem exists_span (text : List Char) :
    ∃ (digits : Digits) (rest : List Char), text = digits.text ++ rest ∧ EndsDigits rest := by
  have front : ∀ c ∈ text.takeWhile (·.isDigit), c.isDigit = true :=
    List.all_eq_true.1 List.all_takeWhile
  obtain ⟨digits, taken⟩ := exists_digits front
  refine ⟨digits, text.dropWhile (·.isDigit), ?_, fun c first => ?_⟩
  · rw [taken, List.takeWhile_append_dropWhile]
  · have stopped := List.head?_dropWhile_not (·.isDigit) text
    rwa [first] at stopped

/-- Digits are taken off the front of a text up to where it does not go on with digits. -/
theorem Digits.span (digits : Digits) {rest : List Char} (ends : EndsDigits rest) :
    (digits.text ++ rest).takeWhile (·.isDigit) = digits.text ∧
      (digits.text ++ rest).dropWhile (·.isDigit) = rest :=
  Text.span_append digits.isDigit ends

/-- Digits without a point are a number if there are any. -/
theorem afterNumber?_of_digits (digits : Digits) {rest : List Char} (ends : EndsDigits rest)
    (noPoint : '.' ∉ rest.head?) :
    afterNumber? (digits.text ++ rest) = if digits.text = [] then none else some rest := by
  obtain ⟨taken, left⟩ := digits.span ends
  rw [afterNumber?, taken, left]
  split
  · exact absurd rfl noPoint
  · simp only [List.isEmpty_iff]

/-- Digits on either side of a point are a number if there are any. -/
theorem afterNumber?_of_point (digits behind : Digits) {rest : List Char}
    (ends : EndsDigits rest) :
    afterNumber? (digits.text ++ '.' :: (behind.text ++ rest)) =
      if digits.text = [] ∧ behind.text = [] then none else some rest := by
  have atPoint : EndsDigits ('.' :: (behind.text ++ rest)) := by
    intro c first
    obtain rfl : '.' = c := Option.some.inj first
    rfl
  obtain ⟨taken, left⟩ := digits.span atPoint
  obtain ⟨takenBehind, leftBehind⟩ := behind.span ends
  rw [afterNumber?, taken, left]
  simp only [takenBehind, leftBehind, Bool.and_eq_true, List.isEmpty_iff]

/-- A text that does not go on with the number that stands before it. -/
structure EndsNumber (rest : List Char) : Prop where
  /-- There is no further digit. -/
  digits : EndsDigits rest
  /-- There is no point. -/
  noPoint : '.' ∉ rest.head?

/-- What follows a number is what is left behind it. -/
theorem afterNumber?_append (number : Number) {rest : List Char} (ends : EndsNumber rest) :
    afterNumber? (number.text ++ rest) = some rest := by
  cases number with
  | whole digits =>
    exact (afterNumber?_of_digits digits.toDigits ends.digits ends.noPoint).trans
      (if_neg digits.nonempty)
  | pointed digits behind =>
    rw [Number.text, List.append_assoc, List.cons_append,
      afterNumber?_of_point digits.toDigits behind ends.digits]
    exact if_neg fun both => digits.nonempty both.1
  | fraction digits =>
    exact (afterNumber?_of_point ⟨[], nofun⟩ digits.toDigits ends.digits).trans
      (if_neg fun both => digits.nonempty both.2)

/-- Where something is left behind a number, there is a number before it. -/
theorem exists_number {text rest : List Char} (left : afterNumber? text = some rest) :
    ∃ number : Number, text = number.text ++ rest := by
  obtain ⟨digits, further, rfl, ends⟩ := exists_span text
  by_cases point : '.' ∈ further.head?
  · obtain ⟨more, rfl⟩ := List.head?_eq_some_iff.1 point
    obtain ⟨behind, others, rfl, ended⟩ := exists_span more
    rw [afterNumber?_of_point digits behind ended] at left
    obtain ⟨some, same⟩ := Option.ite_none_left_eq_some.1 left
    obtain rfl := Option.some.inj same
    by_cases whole : digits.text = []
    · have further : behind.text ≠ [] := fun none => some ⟨whole, none⟩
      exact ⟨.fraction ⟨behind, further⟩, by rw [whole]; rfl⟩
    · exact ⟨.pointed ⟨digits, whole⟩ behind, by rw [Number.text, List.append_assoc]; rfl⟩
  · rw [afterNumber?_of_digits digits ends point] at left
    obtain ⟨some, same⟩ := Option.ite_none_left_eq_some.1 left
    obtain rfl := Option.some.inj same
    exact ⟨.whole ⟨digits, some⟩, rfl⟩

/-- Only numbers that are whole are written without a point. -/
theorem Number.point_mem {number : Number} (broken : ∀ digits, number ≠ .whole digits) :
    '.' ∈ number.text := by
  cases number with
  | whole digits => exact absurd rfl (broken digits)
  | pointed | fraction => simp [Number.text]

/-- A number that is written like a whole one is that whole number. -/
theorem Number.eq_whole {number : Number} {digits : Numeral} (same : number.text = digits.text) :
    number = .whole digits := by
  by_cases whole : ∃ others, number = .whole others
  · obtain ⟨others, rfl⟩ := whole
    exact congrArg Number.whole (Numeral.ext same)
  · have point := Number.point_mem (not_exists.1 whole)
    rw [same] at point
    exact absurd point digits.point_notMem

/-- Digits on either side of a point can be told from how they are written with it. -/
theorem point_inj (digits behind : Digits) (front back : List Char)
    (same : digits.text ++ '.' :: behind.text = front ++ '.' :: back) :
    digits.text = front ∧ behind.text = back := by
  obtain ⟨before, _, after⟩ :=
    (List.append_cons_inj_of_notMem digits.point_notMem behind.point_notMem).1 same
  exact ⟨before, after⟩

/-- Numbers differ in how they are written. -/
theorem Number.text_injective : Function.Injective Number.text := by
  intro number other same
  cases number with
  | whole digits => exact (eq_whole same.symm).symm
  | pointed digits behind =>
    cases other with
    | whole others => exact eq_whole same
    | pointed others back =>
      obtain ⟨before, after⟩ := point_inj digits.toDigits behind _ _ same
      obtain rfl := Numeral.ext before
      obtain rfl := Digits.ext after
      rfl
    | fraction others =>
      exact absurd (point_inj digits.toDigits behind [] _ same).1 digits.nonempty
  | fraction digits =>
    cases other with
    | whole others => exact eq_whole same
    | pointed others back =>
      exact absurd (point_inj others.toDigits back [] _ same.symm).1 others.nonempty
    | fraction others => exact congrArg Number.fraction (Numeral.ext (List.cons.inj same).2)

/-! ## Suffixes -/

/-- What a suffix is. -/
inductive SuffixKind
  /-- Nothing. -/
  | none
  /-- A power of two. -/
  | binary
  /-- A power of ten with a name. -/
  | decimal
  /-- A power of ten with its exponent. -/
  | exponent

/-- What a suffix is. -/
def Suffix.kind : Suffix → SuffixKind
  | .none => .none
  | .binary _ => .binary
  | .decimal _ => .decimal
  | .exponent .. => .exponent

/-- What a suffix is that is written in a certain way. -/
def kindOf : List Char → SuffixKind
  | [] => .none
  | [_] => .decimal
  | [_, 'i'] => .binary
  | _ => .exponent

/-- The exponent of a power of ten is neither missing nor taken for the rest of a unit. -/
theorem kindOf_exponent (mark : Char) (sign : Sign) (digits : Numeral) :
    kindOf (mark :: (sign.text ++ digits.text)) = .exponent := by
  obtain ⟨first, others, written⟩ := List.exists_cons_of_ne_nil digits.nonempty
  have digit := digits.isDigit first (by rw [written]; exact List.mem_cons_self)
  rw [written]
  cases sign with
  | plus | minus => rfl
  | none =>
    rw [Sign.text, List.nil_append, kindOf.eq_def]
    split <;> rename_i same
    · cases same
    · cases same
    · cases same
      cases digit
    · rfl

/-- What a suffix is can be told from how it is written. -/
theorem Suffix.kindOf_text (suffix : Suffix) : kindOf suffix.text = suffix.kind := by
  cases suffix with
  | none | binary | decimal => rfl
  | exponent mark sign digits => exact kindOf_exponent mark.1 sign digits

-- One letter is a unit, and what follows it makes it the mark of an exponent or a power of two.
example : kindOf ['E'] = .decimal ∧ kindOf ['E', '5'] = .exponent ∧ kindOf ['E', 'i'] = .binary :=
  ⟨rfl, rfl, rfl⟩

/-- Suffixes differ in how they are written. -/
theorem Suffix.text_injective : Function.Injective Suffix.text := by
  intro suffix other same
  have kinds : suffix.kind = other.kind := by
    rw [← suffix.kindOf_text, same, other.kindOf_text]
  cases suffix with
  | none =>
    cases other with
    | none => rfl
    | binary | decimal | exponent => cases kinds
  | binary unit =>
    cases other with
    | binary another => exact congrArg Suffix.binary (Subtype.ext (List.cons.inj same).1)
    | none | decimal | exponent => cases kinds
  | decimal unit =>
    cases other with
    | decimal another => exact congrArg Suffix.decimal (Subtype.ext (List.cons.inj same).1)
    | none | binary | exponent => cases kinds
  | exponent mark sign digits =>
    cases other with
    | exponent another second others =>
      obtain ⟨marks, exponents⟩ := List.cons.inj same
      obtain ⟨rfl, numerals⟩ := Sign.append_inj digits.bare_text others.bare_text exponents
      obtain rfl := Subtype.ext marks
      obtain rfl := Numeral.ext numerals
      rfl
    | none | binary | decimal => cases kinds

/-- A text that begins with a letter is not taken for more of a number. -/
theorem endsNumber_cons {c : Char} {rest : List Char} (letter : c.isDigit = false ∧ c ≠ '.') :
    EndsNumber (c :: rest) := by
  refine ⟨fun other same => ?_, fun same => letter.2 (Option.some.inj same)⟩
  obtain rfl := Option.some.inj same
  exact letter.1

/-- A number ends before its suffix. -/
theorem Suffix.endsNumber (suffix : Suffix) : EndsNumber suffix.text := by
  have binaries : ∀ c ∈ ['K', 'M', 'G', 'T', 'P', 'E'], c.isDigit = false ∧ c ≠ '.' := by simp
  have decimals : ∀ c ∈ ['n', 'u', 'm', 'k', 'M', 'G', 'T', 'P', 'E'],
      c.isDigit = false ∧ c ≠ '.' := by simp
  have marks : ∀ c ∈ ['e', 'E'], c.isDigit = false ∧ c ≠ '.' := by simp
  cases suffix with
  | none => exact ⟨nofun, nofun⟩
  | binary unit => exact endsNumber_cons (binaries unit.1 unit.2)
  | decimal unit => exact endsNumber_cons (decimals unit.1 unit.2)
  | exponent mark => exact endsNumber_cons (marks mark.1 mark.2)

/-- A text is a unit exactly if it is that of a power of two or of a power of ten with a name. -/
theorem contains_units_iff {text : List Char} :
    units.contains text = true ↔
      (∃ unit, (Suffix.binary unit).text = text) ∨ ∃ unit, (Suffix.decimal unit).text = text := by
  rw [List.contains_iff_mem, units, List.mem_append, List.mem_map, List.mem_map]
  simp only [Suffix.text, Subtype.exists, exists_prop]

/-- A text is one digit or more after a sign or none exactly if it is that of a sign and a
numeral. -/
theorem isDigits_unsigned_iff {text : List Char} :
    isDigits (unsigned text) = true ↔
      ∃ (sign : Sign) (digits : Numeral), sign.text ++ digits.text = text := by
  constructor
  · intro exponent
    obtain ⟨sign, signed⟩ := exists_sign text
    obtain ⟨digits, written⟩ := isDigits_iff.1 exponent
    exact ⟨sign, digits, by rw [written, ← signed]⟩
  · rintro ⟨sign, digits, rfl⟩
    rw [unsigned_append sign digits.bare_text]
    exact isDigits_iff.2 ⟨digits, rfl⟩

/-- A text is a power of ten with its exponent exactly if it is that of one. -/
theorem isExponent_iff {text : List Char} :
    isExponent text = true ↔
      ∃ mark sign digits, (Suffix.exponent mark sign digits).text = text := by
  constructor
  · intro exponent
    rw [isExponent.eq_def] at exponent
    split at exponent
    · obtain ⟨sign, digits, rfl⟩ := isDigits_unsigned_iff.1 exponent
      exact ⟨⟨'e', by decide⟩, sign, digits, rfl⟩
    · obtain ⟨sign, digits, rfl⟩ := isDigits_unsigned_iff.1 exponent
      exact ⟨⟨'E', by decide⟩, sign, digits, rfl⟩
    · cases exponent
  · rintro ⟨⟨mark, member⟩, sign, digits, rfl⟩
    have exponent := isDigits_unsigned_iff.2 ⟨sign, digits, rfl⟩
    rcases List.mem_pair.1 member with rfl | rfl
    · exact exponent
    · exact exponent

/-- A text may follow the number of a quantity exactly if it is that of a suffix. -/
theorem isSuffix_iff {text : List Char} :
    isSuffix text = true ↔ ∃ suffix : Suffix, suffix.text = text := by
  rw [isSuffix, Bool.or_eq_true, Bool.or_eq_true, List.isEmpty_iff, contains_units_iff,
    isExponent_iff]
  constructor
  · rintro ((rfl | ⟨unit, rfl⟩ | ⟨unit, rfl⟩) | ⟨mark, sign, digits, rfl⟩)
    · exact ⟨.none, rfl⟩
    · exact ⟨_, rfl⟩
    · exact ⟨_, rfl⟩
    · exact ⟨_, rfl⟩
  · rintro ⟨suffix, rfl⟩
    cases suffix with
    | none => exact .inl (.inl rfl)
    | binary unit => exact .inl (.inr (.inl ⟨unit, rfl⟩))
    | decimal unit => exact .inl (.inr (.inr ⟨unit, rfl⟩))
    | exponent mark sign digits => exact .inr ⟨mark, sign, digits, rfl⟩

/-! ## Quantities -/

/-- What is left behind the number of a form is its suffix. -/
theorem Form.afterNumber? (form : Form) :
    Quantity.afterNumber? (unsigned form.text) = some form.suffix.text := by
  rw [Form.text, unsigned_append form.sign (form.number.bare _)]
  exact afterNumber?_append form.number form.suffix.endsNumber

/-- Forms differ in how they are written. -/
theorem Form.text_injective : Function.Injective Form.text := by
  intro form other same
  have suffixes : form.suffix.text = other.suffix.text := by
    have left := form.afterNumber?
    rw [same, other.afterNumber?] at left
    exact (Option.some.inj left).symm
  obtain ⟨signs, rest⟩ := Sign.append_inj (form.number.bare _) (other.number.bare _) same
  rw [suffixes] at rest
  have numbers := Number.text_injective (List.append_cancel_right rest)
  exact Form.ext signs numbers (Suffix.text_injective suffixes)

/-- A text is a quantity exactly if it is that of a form. -/
theorem isValid_iff {text : String} :
    isValid text = true ↔ ∃ form : Form, form.text = text.toList := by
  constructor
  · intro valid
    rw [isValid] at valid
    obtain ⟨sign, signed⟩ := exists_sign text.toList
    cases left : Quantity.afterNumber? (unsigned text.toList) with
    | none =>
      rw [left] at valid
      cases valid
    | some rest =>
      rw [left] at valid
      obtain ⟨number, numbered⟩ := exists_number left
      obtain ⟨suffix, rfl⟩ := isSuffix_iff.1 valid
      exact ⟨⟨sign, number, suffix⟩, by rw [signed, numbered, Form.text]⟩
  · rintro ⟨form, written⟩
    rw [isValid, ← written, form.afterNumber?]
    exact isSuffix_iff.2 ⟨form.suffix, rfl⟩

/-! ## Characters -/

/-- A character that quantities may be written with. -/
def InAlphabet (c : Char) : Prop := '0' ≤ c ∧ c ≤ '9' ∨ c ∈ "+-.KMGTPEinumke".toList

/-- The point is a character of quantities. -/
theorem inAlphabet_point : InAlphabet '.' := .inr (by simp)

/-- Digits are characters of quantities. -/
theorem Digits.inAlphabet (digits : Digits) : ∀ c ∈ digits.text, InAlphabet c :=
  fun c member => .inl (digits.decimal c member)

/-- Signs are characters of quantities. -/
theorem Sign.inAlphabet (sign : Sign) : ∀ c ∈ sign.text, InAlphabet c := by
  cases sign <;> simp [Sign.text, InAlphabet]

/-- Numbers are written with the characters of quantities. -/
theorem Number.inAlphabet (number : Number) : ∀ c ∈ number.text, InAlphabet c := by
  cases number with
  | whole digits => exact digits.inAlphabet
  | pointed digits behind =>
    have behindPoint := List.forall_mem_cons.2 ⟨inAlphabet_point, behind.inAlphabet⟩
    exact List.forall_mem_append.2 ⟨digits.inAlphabet, behindPoint⟩
  | fraction digits => exact List.forall_mem_cons.2 ⟨inAlphabet_point, digits.inAlphabet⟩

/-- Suffixes are written with the characters of quantities. -/
theorem Suffix.inAlphabet (suffix : Suffix) : ∀ c ∈ suffix.text, InAlphabet c := by
  have binaries : ∀ c ∈ ['K', 'M', 'G', 'T', 'P', 'E'], InAlphabet c := by simp [InAlphabet]
  have decimals : ∀ c ∈ ['n', 'u', 'm', 'k', 'M', 'G', 'T', 'P', 'E'], InAlphabet c := by
    simp [InAlphabet]
  have marks : ∀ c ∈ ['e', 'E'], InAlphabet c := by simp [InAlphabet]
  cases suffix with
  | none => exact nofun
  | binary unit =>
    have last : InAlphabet 'i' := .inr (by simp)
    exact List.forall_mem_cons.2 ⟨binaries unit.1 unit.2, List.forall_mem_singleton.2 last⟩
  | decimal unit => exact List.forall_mem_singleton.2 (decimals unit.1 unit.2)
  | exponent mark sign digits =>
    have exponent := List.forall_mem_append.2 ⟨sign.inAlphabet, digits.inAlphabet⟩
    exact List.forall_mem_cons.2 ⟨marks mark.1 mark.2, exponent⟩

/-- Quantities are written with their characters only. -/
theorem Form.inAlphabet (form : Form) : ∀ c ∈ form.text, InAlphabet c := by
  have rest := List.forall_mem_append.2 ⟨form.number.inAlphabet, form.suffix.inAlphabet⟩
  exact List.forall_mem_append.2 ⟨form.sign.inAlphabet, rest⟩

end StagedTest.Quantity

namespace StagedTest.Batch

open Program

/-! ## The amounts of a step -/

/-- Amounts are all quantities exactly if each of them is the text of a form. -/
theorem allValid_iff {amounts : StringMap String} :
    AllValid amounts ↔ ∀ resource amount, amounts.get? resource = some amount →
      ∃ form : Quantity.Form, form.text = amount.toList :=
  forall_congr' fun _ => forall_congr' fun _ => imp_congr_right fun _ => Quantity.isValid_iff

/-- A step with an amount that is not a quantity is reported with such an amount. -/
theorem invalidQuantity?_of_not_allValid {step : Step}
    (wrong : ¬(AllValid step.resources.requests ∧ AllValid step.resources.limits)) :
    ∃ resource amount, (step.resources.requests.get? resource = some amount ∨
        step.resources.limits.get? resource = some amount) ∧
      Quantity.isValid amount = false ∧
      invalidQuantity? step = some (.invalidQuantity step.name resource amount) := by
  rcases invalidQuantity?_cases step with ⟨resource, amount, found, reported⟩ |
    ⟨_, resource, amount, found, reported⟩ | ⟨requests, limits, _⟩
  · exact ⟨resource, amount, .inl found.listed, found.invalid, reported⟩
  · exact ⟨resource, amount, .inr found.listed, found.invalid, reported⟩
  · exact absurd ⟨requests, limits⟩ wrong

/-- Whatever else is wrong with a step, its amounts are not to blame. -/
theorem invalidQuantity_notMem {config : TestConfiguration} {step : Step}
    {answers : List (Except ClientError String)} (name resource amount : String) :
    .invalidQuantity name resource amount ∉ missing config step ++ unknown step answers := by
  rw [List.mem_append, missing, unknown, List.mem_filterMap, List.mem_filterMap]
  rintro (⟨parameter, _, made⟩ | ⟨⟨dependency, answer⟩, _, made⟩)
  · split at made <;> cases made
  · cases answer <;> cases made

/-- A step whose amounts are quantities has a pod, or is reported for something else. -/
theorem buildPod_of_allValid {plan : Plan} {shared : List EnvVar} {step : Step}
    {history : History Cluster} {result : Except (List RunError) Pod}
    (requests : AllValid step.resources.requests) (limits : AllValid step.resources.limits)
    (ends : (buildPod plan shared step).Ends history result) :
    (∃ pod, result = .ok pod) ∨
      ∃ errors, result = .error errors ∧
        ∀ name resource amount, .invalidQuantity name resource amount ∉ errors := by
  obtain ⟨answers, fits, rfl, made⟩ := ends_buildPod ends
  have yields := yields_stepResult plan shared fits
  rw [← made] at yields
  cases result with
  | ok pod => exact .inl ⟨pod, rfl⟩
  | error errors =>
    rw [add, List.append_nil] at yields
    refine .inr ⟨errors, rfl, fun name resource amount => ?_⟩
    cases yields with
    | request first => exact absurd requests first.not_allValid
    | limit _ first => exact absurd limits first.not_allValid
    | incomplete => exact invalidQuantity_notMem name resource amount

/-- A text is taken for a quantity exactly if it is the text of a form, all of it; no text is that
of two forms, and forms are written with digits from zero to nine, signs, points and the letters of
units only. Whatever the plan and however the cluster answers, a step all of whose amounts are
quantities has a pod or is reported for something else; any other step is reported for an amount
that is not a quantity, and nothing is asked for. The amounts reach the container of a pod as they
are, and where there are none, there is no entry for them. -/
theorem quantities_of_forms {σ : Type} (plan : Plan) (shared : List EnvVar) (step : Step)
    (handler : Handler Cluster σ) (state : σ) :
    let result := ((buildPod plan shared step).run handler state).1
    let asked := (buildPod plan shared step).trace handler state
    let isForm := fun text : String => ∃ form : Quantity.Form, form.text = text.toList
    let needs := step.resources
    let accepted := ∀ resource amount,
      needs.requests.get? resource = some amount ∨ needs.limits.get? resource = some amount →
        isForm amount
    let carried := fun amounts : StringMap String => if amounts.isEmpty then none else some amounts
    (∀ text, Quantity.isValid text = true ↔ isForm text) ∧
    (∀ form other : Quantity.Form, form.text = other.text → form = other) ∧
    (∀ form : Quantity.Form, ∀ c ∈ form.text,
      '0' ≤ c ∧ c ≤ '9' ∨ c ∈ "+-.KMGTPEinumke".toList) ∧
    (accepted → (∃ pod, result = .ok pod) ∨
      ∃ errors, result = .error errors ∧
        ∀ name resource amount, .invalidQuantity name resource amount ∉ errors) ∧
    (¬accepted → asked = [] ∧ ∃ resource amount,
      (needs.requests.get? resource = some amount ∨ needs.limits.get? resource = some amount) ∧
      ¬isForm amount ∧ result = .error [.invalidQuantity step.name resource amount]) ∧
    ∀ pod, result = .ok pod → ∃ spec container, pod.spec = some spec ∧
      spec.containers = [container] ∧
      container.resources = some
        { requests := carried needs.requests, limits := carried needs.limits } := by
  intro result asked isForm needs accepted carried
  have ends := ends_run handler (buildPod plan shared step) state
  have both : accepted ↔ AllValid needs.requests ∧ AllValid needs.limits := by
    rw [allValid_iff, allValid_iff]
    constructor
    · exact fun each => ⟨fun resource amount listed => each resource amount (.inl listed),
        fun resource amount listed => each resource amount (.inr listed)⟩
    · rintro ⟨requests, limits⟩ resource amount (listed | listed)
      · exact requests resource amount listed
      · exact limits resource amount listed
  refine ⟨fun text => Quantity.isValid_iff, Quantity.Form.text_injective,
    fun form => form.inAlphabet, fun valid => ?_, fun wrong => ?_, fun pod built => ?_⟩
  · obtain ⟨requests, limits⟩ := both.1 valid
    exact buildPod_of_allValid requests limits ends
  · obtain ⟨resource, amount, listed, invalid, reported⟩ :=
      invalidQuantity?_of_not_allValid (mt both.2 wrong)
    have stopped : buildPod plan shared step =
        .done (.error [.invalidQuantity step.name resource amount]) := by
      rw [buildPod, reported]
    refine ⟨?_, resource, amount, listed, ?_, ?_⟩
    · simp only [asked, stopped, trace]
    · exact fun written => absurd (Quantity.isValid_iff.2 written) (Bool.eq_false_iff.1 invalid)
    · simp only [result, stopped, run]
  · have built : (buildPod plan shared step).Ends asked (.ok pod) := built ▸ ends
    obtain ⟨pullSpecs, _, _, _, rfl⟩ := pod_of_buildPod built
    exact ⟨_, _, rfl, rfl, rfl⟩

end StagedTest.Batch
