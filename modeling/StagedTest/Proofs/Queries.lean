import StagedTest.Http
import StagedTest.Text.Affix
import StagedTest.Text.FormEncoded

/-!
# Queries

A query tells names with their values: it is split at its ampersands, and each part at its first
equals sign. The values may be written as those of a form. The statements here say when what is
written into a query is read from it, and what of the target of a request is kept.
-/
namespace StagedTest

namespace Text

/-! ## Texts that are joined by a mark -/

/-- The parts of a list between marks are those that the library splits it into. -/
theorem listParts_eq_splitOn (mark : Char) (text : List Char) :
    listParts mark text = text.splitOn mark := by
  induction text with
  | nil => rfl
  | cons c rest ih =>
    rw [listParts, List.splitOn_cons_eq_if_modifyHead, ih]
    by_cases same : c = mark
    · simp [same]
    · obtain ⟨part, parts, split⟩ := List.exists_cons_of_ne_nil (List.splitOn_ne_nil mark rest)
      simp [same, split]

/-- Texts that leave out a mark are the parts of what they are joined to by it. -/
theorem parts_intercalate {mark : Char} {texts : List String} (some : texts ≠ [])
    (clean : ∀ text ∈ texts, mark ∉ text.toList) :
    parts mark ((String.singleton mark).intercalate texts) = texts := by
  have lists : ((String.singleton mark).intercalate texts).toList =
      [mark].intercalate (texts.map String.toList) := by
    rw [String.toList_intercalate, String.toList_singleton]
  have split : ([mark].intercalate (texts.map String.toList)).splitOn mark =
      texts.map String.toList := by
    apply List.splitOn_intercalate
    · intro list member
      obtain ⟨text, among, rfl⟩ := List.mem_map.1 member
      exact clean text among
    · simpa using some
  unfold parts
  rw [listParts_eq_splitOn, lists, split, List.map_map]
  exact (List.map_congr_left fun text _ => String.ofList_toList).trans (List.map_id texts)

/-- A name with its value. -/
def assignment (entry : String × String) : String := entry.1 ++ "=" ++ entry.2

/-- A name and its value are read back. -/
theorem splitAt?_assignment {entry : String × String} (clean : '=' ∉ entry.1.toList) :
    splitAt? '=' (assignment entry) = some entry :=
  splitAt?_eq_some_iff.2 ⟨clean, rfl⟩

/-- Names with their values are the parts of what they are joined to by a mark, if no name and no
value has it. -/
theorem parts_assignments {mark : Char} {entries : List (String × String)} (other : mark ≠ '=')
    (some : entries ≠ [])
    (clean : ∀ entry ∈ entries, mark ∉ entry.1.toList ∧ mark ∉ entry.2.toList) :
    parts mark ((String.singleton mark).intercalate (entries.map assignment)) =
      entries.map assignment := by
  apply parts_intercalate
  · simpa using some
  · intro text member
    obtain ⟨entry, among, rfl⟩ := List.mem_map.1 member
    obtain ⟨name, value⟩ := clean entry among
    simp [assignment, name, value, other]

/-- The names in a query, with their values. -/
def queryFields (query : String) : List (String × String) :=
  (parts '&' query).filterMap (splitAt? '=')

/-- An ampersand in front of a query tells nothing. -/
theorem queryFields_ampersand (query : String) :
    queryFields ("&" ++ query) = queryFields query := by
  have split : parts '&' ("&" ++ query) = "" :: parts '&' query := by
    unfold parts
    rw [String.toList_append]
    rfl
  unfold queryFields
  rw [split, List.filterMap_cons_none]
  decide

/-- Names with their values are read back from the query that they are joined to, if no name and no
value has an ampersand, and no name an equals sign. -/
theorem queryFields_intercalate {entries : List (String × String)} (some : entries ≠ [])
    (names : ∀ entry ∈ entries, '=' ∉ entry.1.toList ∧ '&' ∉ entry.1.toList)
    (values : ∀ entry ∈ entries, '&' ∉ entry.2.toList) :
    queryFields ((String.singleton '&').intercalate (entries.map assignment)) = entries := by
  have split : parts '&' ((String.singleton '&').intercalate (entries.map assignment)) =
      entries.map assignment :=
    parts_assignments (by decide) some
      fun entry among => ⟨(names entry among).2, values entry among⟩
  unfold queryFields
  rw [split]
  clear split some values
  induction entries with
  | nil => rfl
  | cons entry rest ih =>
    obtain ⟨first, others⟩ := List.forall_mem_cons.1 names
    rw [List.map_cons, List.filterMap_cons_some (splitAt?_assignment first.1), ih others]

/-! ## Values of forms -/

namespace FormEncoded

/-- The value of a hexadecimal digit. -/
def digitValue? (c : Char) : Option Nat := (List.range 16).find? fun value => digit value == c

/-- The bytes that stand in the value of a form's field. -/
def readBytes? : List Char → Option (List UInt8)
  | [] => some []
  | '%' :: high :: low :: rest => do
    let high ← digitValue? high
    let low ← digitValue? low
    (readBytes? rest).map (UInt8.ofNat (16 * high + low) :: ·)
  | c :: rest =>
    if c = '%' then none
    else (readBytes? rest).map ((if c = '+' then 32 else UInt8.ofNat c.toNat) :: ·)

/-- A digit has its value. -/
theorem digitValue?_digit (value : Nat) (small : value < 16) :
    digitValue? (digit value) = some value := by
  have all : ∀ value < 16, digitValue? (digit value) = some value := by decide
  exact all value small

/-- The character of a byte that stands for itself has no other meaning, and leads back to the
byte. -/
theorem plain_character {byte : UInt8} (plain : isPlain byte = true) :
    Char.ofNat byte.toNat ≠ '%' ∧ Char.ofNat byte.toNat ≠ '+' ∧
      UInt8.ofNat (Char.ofNat byte.toNat).toNat = byte := by
  have all : ∀ value < 256, isPlain (UInt8.ofNat value) = true →
      Char.ofNat value ≠ '%' ∧ Char.ofNat value ≠ '+' ∧ (Char.ofNat value).toNat = value := by
    decide +kernel
  rw [← UInt8.ofNat_toNat (x := byte)] at plain
  obtain ⟨noEscape, noSpace, same⟩ := all byte.toNat byte.toNat_lt plain
  refine ⟨noEscape, noSpace, ?_⟩
  rw [same, UInt8.ofNat_toNat]

/-- The spelling of a byte is read as that byte, whatever follows. -/
theorem readBytes?_spelling (byte : UInt8) (rest : List Char) :
    readBytes? (spelling byte ++ rest) = (readBytes? rest).map (byte :: ·) := by
  unfold spelling
  by_cases plain : isPlain byte = true
  · obtain ⟨noEscape, noSpace, same⟩ := plain_character plain
    rw [if_pos plain, List.singleton_append, readBytes?, if_neg noEscape, if_neg noSpace, same]
    intro high low others escape
    exact absurd escape noEscape
  · rw [if_neg plain]
    by_cases space : byte = 32
    · rw [if_pos space, space]
      rfl
    · have size := byte.toNat_lt
      have high := digitValue?_digit (byte.toNat / 16) (by omega)
      have low := digitValue?_digit (byte.toNat % 16) (by omega)
      have whole : 16 * (byte.toNat / 16) + byte.toNat % 16 = byte.toNat := by omega
      rw [if_neg space]
      simp only [List.cons_append, List.nil_append, readBytes?, high, low, Option.bind_eq_bind,
        Option.bind_some, whole, UInt8.ofNat_toNat]

/-- Spelled bytes are read as these bytes. -/
theorem readBytes?_flatMap_spelling (bytes : List UInt8) :
    readBytes? (bytes.flatMap spelling) = some bytes := by
  induction bytes with
  | nil => rfl
  | cons byte rest ih => rw [List.flatMap_cons, readBytes?_spelling, ih, Option.map_some]

/-- The spelling of a byte consists of characters that a query may have, and does not end a field
of a form. -/
theorem queryChar_of_mem_spelling {byte : UInt8} {c : Char} (member : c ∈ spelling byte) :
    Http.isQueryChar c = true ∧ c ≠ '&' := by
  have all : ∀ value < 256,
      (spelling (UInt8.ofNat value)).all (fun c => Http.isQueryChar c && c != '&') = true := by
    decide +kernel
  rw [← UInt8.ofNat_toNat (x := byte)] at member
  have plain := List.all_eq_true.1 (all byte.toNat byte.toNat_lt) c member
  simpa using plain

end FormEncoded

/-- The text that the value of a form's field stands for. -/
def formDecoded? (value : String) : Option String :=
  (FormEncoded.readBytes? value.toList).bind fun bytes => String.fromUTF8? bytes.toByteArray

/-- Bytes are listed from a place on. -/
theorem toList_loop_eq (bytes : ByteArray) (place : Nat) (listed : List UInt8) :
    ByteArray.toList.loop bytes place listed =
      listed.reverse ++ bytes.data.toList.drop place := by
  -- The loop goes on as long as bytes are left, so the induction is on their number.
  induction left : bytes.size - place generalizing place listed with
  | zero =>
    have ended : ¬place < bytes.size := by omega
    have none : bytes.data.toList.drop place = [] := by
      apply List.drop_eq_nil_of_le
      have size : bytes.data.toList.length = bytes.size := rfl
      omega
    rw [ByteArray.toList.loop.eq_def, if_neg ended, none, List.append_nil]
  | succ left ih =>
    have more : place < bytes.size := by omega
    have size : place < bytes.data.toList.length := more
    rw [ByteArray.toList.loop.eq_def, if_pos more, ih _ _ (by omega),
      List.drop_eq_getElem_cons size]
    have byte : bytes.get! place = bytes.data.toList[place] := by
      change bytes.data[place]! = _
      rw [getElem!_pos bytes.data place more, Array.getElem_toList]
    rw [byte, List.reverse_cons, List.append_assoc]
    rfl

/-- The bytes of a text, put together again, are the text. -/
theorem fromUTF8?_toUTF8 (text : String) :
    String.fromUTF8? text.toUTF8.toList.toByteArray = some text := by
  have bytes : text.toUTF8.toList.toByteArray = text.toByteArray := by
    unfold ByteArray.toList
    rw [toList_loop_eq, List.reverse_nil, List.nil_append, List.drop_zero]
    apply ByteArray.ext
    rw [List.data_toByteArray]
    rfl
  rw [bytes]
  unfold String.fromUTF8?
  rw [dif_pos text.isValidUTF8]
  rfl

/-- A text is read back from the value of a form's field. -/
theorem formDecoded?_formEncoded (text : String) : formDecoded? (formEncoded text) = some text := by
  unfold formDecoded? formEncoded
  rw [String.toList_ofList, FormEncoded.readBytes?_flatMap_spelling, Option.bind_some]
  exact fromUTF8?_toUTF8 text

end Text

namespace Http

/-! ## Targets of requests -/

/-- A query that consists of characters that a query may have is kept as it is. -/
theorem query?_of_forall {query : List Char} (plain : ∀ c ∈ query, isQueryChar c = true) :
    query? query = some query := by
  induction query with
  | nil => rfl
  | cons c rest ih =>
    obtain ⟨first, others⟩ := List.forall_mem_cons.1 plain
    have noFragment : c ≠ '#' := by
      rintro rfl
      exact absurd first (by decide)
    rw [query?, if_neg noFragment, if_pos first, ih others, Option.map_some]

/-- A query without a fragment is kept as it is, if it is one. -/
theorem eq_of_query? {query found : List Char} (whole : '#' ∉ query)
    (read : query? query = some found) : found = query := by
  induction query generalizing found with
  | nil => exact (Option.some.inj read).symm
  | cons c rest ih =>
    obtain ⟨noFragment, others⟩ := not_or.1 (mt List.mem_cons.2 whole)
    rw [query?, if_neg (Ne.symm noFragment)] at read
    split at read
    · obtain ⟨later, readLater, rfl⟩ := Option.map_eq_some_iff.1 read
      rw [ih others readLater]
    · cases read

/-- A character that a path may have does not end the path. -/
theorem ne_of_isPathChar {c : Char} (plain : isPathChar c = true) : c ≠ '?' ∧ c ≠ '#' := by
  constructor
  · rintro rfl
    exact absurd plain (by decide)
  · rintro rfl
    exact absurd plain (by decide)

/-- A target of a path and a query is kept as it is if both consist of characters that they may
have. -/
theorem target?_of_forall {path query : List Char} (plainPath : ∀ c ∈ path, isPathChar c = true)
    (plainQuery : ∀ c ∈ query, isQueryChar c = true) :
    target? (path ++ '?' :: query) = some (path ++ '?' :: query) := by
  induction path with
  | nil =>
    have marked : target? ('?' :: query) = (query? query).map ('?' :: ·) := rfl
    rw [List.nil_append, marked, query?_of_forall plainQuery, Option.map_some]
  | cons c rest ih =>
    obtain ⟨first, others⟩ := List.forall_mem_cons.1 plainPath
    obtain ⟨noQuery, noFragment⟩ := ne_of_isPathChar first
    rw [List.cons_append, target?, if_neg noFragment, if_neg noQuery, if_pos first, ih others,
      Option.map_some]

/-- A target without a fragment is kept as it is, if it is one. -/
theorem eq_of_target? {target found : List Char} (whole : '#' ∉ target)
    (read : target? target = some found) : found = target := by
  induction target generalizing found with
  | nil => exact (Option.some.inj read).symm
  | cons c rest ih =>
    obtain ⟨noFragment, others⟩ := not_or.1 (mt List.mem_cons.2 whole)
    rw [target?, if_neg (Ne.symm noFragment)] at read
    split at read
    · obtain ⟨query, readQuery, rfl⟩ := Option.map_eq_some_iff.1 read
      rw [eq_of_query? others readQuery]
    · split at read
      · obtain ⟨later, readLater, rfl⟩ := Option.map_eq_some_iff.1 read
        rw [ih others readLater]
      · cases read

/-- A request whose target has no fragment goes to its target. -/
theorem Request.target_of_make {method : Method} {target : String} {contentType : Option String}
    {body : Option Value} {request : Request} (whole : '#' ∉ target.toList)
    (made : Request.make method target contentType body = .ok request) :
    request.target = target := by
  unfold Request.make at made
  split at made
  · rename_i found read
    cases made
    have same := eq_of_target? whole read
    rw [same, String.ofList_toList]
  · cases made

/-- The value of a parameter in the query of a request, where the first part of the name counts. -/
def Request.parameter? (request : Request) (name : String) : Option String := do
  let (_, query) ← Text.splitAt? '?' request.target
  let value ← (Text.queryFields query).lookup name
  Text.formDecoded? value

end Http

end StagedTest
