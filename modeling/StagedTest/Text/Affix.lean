/-!
# Taking texts apart

Names in a staged test are built by joining parts with a fixed mark. The functions here take
such names apart again: a text after a given beginning, the two sides of the first occurrence of
a mark, and the parts between all of them.
-/
namespace StagedTest.Text

/-- The part of a list after a given beginning, if the list begins so. -/
def listAfter? (lead : List Char) (text : List Char) : Option (List Char) :=
  match lead, text with
  | [], rest => some rest
  | _ :: _, [] => none
  | a :: lead, b :: text => if a = b then listAfter? lead text else none

/-- The part of a text after a given beginning, if the text begins so. -/
def after? (lead text : String) : Option String :=
  (listAfter? lead.toList text.toList).map String.ofList

/-- Both sides of the first occurrence of a mark in a list. -/
def listSplitAt? (mark : Char) : List Char → Option (List Char × List Char)
  | [] => none
  | c :: rest =>
    if c = mark then some ([], rest)
    else (listSplitAt? mark rest).map fun (before, behind) => (c :: before, behind)

/-- Both sides of the first occurrence of a mark in a text. -/
def splitAt? (mark : Char) (text : String) : Option (String × String) :=
  (listSplitAt? mark text.toList).map fun (before, behind) =>
    (String.ofList before, String.ofList behind)

/-- The parts of a list between the occurrences of a mark. -/
def listParts (mark : Char) : List Char → List (List Char)
  | [] => [[]]
  | c :: rest =>
    if c = mark then [] :: listParts mark rest
    else
      match listParts mark rest with
      | [] => [[c]]
      | part :: parts => (c :: part) :: parts

/-- The parts of a text between the occurrences of a mark. -/
def parts (mark : Char) (text : String) : List String :=
  (listParts mark text.toList).map String.ofList

/-- A beginning put in front of a list is what is found there, and the list is what follows. -/
@[simp] theorem listAfter?_append (lead rest : List Char) :
    listAfter? lead (lead ++ rest) = some rest := by
  induction lead with
  | nil => rfl
  | cons c lead ih => simp [listAfter?, ih]

/-- What follows a beginning gives the list back when the beginning is put in front of it. -/
theorem eq_append_of_listAfter? {lead text rest : List Char}
    (found : listAfter? lead text = some rest) : text = lead ++ rest := by
  induction lead generalizing text with
  | nil => simpa [listAfter?] using found
  | cons a lead ih =>
    cases text with
    | nil => simp [listAfter?] at found
    | cons b text =>
      by_cases same : a = b
      · subst same
        simp only [listAfter?, if_true] at found
        simp [ih found]
      · simp [listAfter?, same] at found

/-- A text after a beginning is that text when the beginning is put in front of it. -/
@[simp] theorem after?_append (lead rest : String) : after? lead (lead ++ rest) = some rest := by
  simp [after?]

/-- What follows a beginning gives the text back when the beginning is put in front of it. -/
theorem eq_append_of_after? {lead text rest : String} (found : after? lead text = some rest) :
    text = lead ++ rest := by
  simp only [after?, Option.map_eq_some_iff] at found
  obtain ⟨chars, split, rfl⟩ := found
  have whole := eq_append_of_listAfter? split
  apply String.toList_inj.1
  simp [whole]

/-- A list is split at a mark that has no other before it. -/
theorem listSplitAt?_append {mark : Char} {before : List Char} (clean : mark ∉ before)
    (behind : List Char) :
    listSplitAt? mark (before ++ mark :: behind) = some (before, behind) := by
  induction before with
  | nil => simp [listSplitAt?]
  | cons c before ih =>
    have differ : c ≠ mark := (List.ne_of_not_mem_cons clean).symm
    simp [listSplitAt?, differ, ih (List.not_mem_of_not_mem_cons clean)]

/-- The two sides of a list that is split give the list back around the mark, and the mark does not
stand before it. -/
theorem eq_append_of_listSplitAt? {mark : Char} {text before behind : List Char}
    (split : listSplitAt? mark text = some (before, behind)) :
    mark ∉ before ∧ text = before ++ mark :: behind := by
  induction text generalizing before with
  | nil => cases split
  | cons c rest ih =>
    rw [listSplitAt?] at split
    by_cases same : c = mark
    · rw [if_pos same] at split
      cases split
      exact ⟨List.not_mem_nil, by rw [same, List.nil_append]⟩
    · rw [if_neg same] at split
      obtain ⟨⟨front, _⟩, later, sides⟩ := Option.map_eq_some_iff.1 split
      cases sides
      obtain ⟨clean, rfl⟩ := ih later
      exact ⟨List.not_mem_cons_of_ne_of_not_mem (Ne.symm same) clean, rfl⟩

/-- A list without the mark is not split. -/
theorem listSplitAt?_eq_none_iff {mark : Char} {text : List Char} :
    listSplitAt? mark text = none ↔ mark ∉ text := by
  induction text with
  | nil => simp [listSplitAt?]
  | cons c rest ih =>
    rw [listSplitAt?]
    by_cases same : c = mark
    · simp [same]
    · simp [same, ih, Ne.symm same]

/-- A text is split where its first mark is. -/
theorem splitAt?_eq_some_iff {mark : Char} {text before behind : String} :
    splitAt? mark text = some (before, behind) ↔
      mark ∉ before.toList ∧ text = before ++ String.singleton mark ++ behind := by
  simp only [splitAt?, Option.map_eq_some_iff]
  constructor
  · rintro ⟨⟨front, back⟩, split, sides⟩
    cases sides
    obtain ⟨clean, whole⟩ := eq_append_of_listSplitAt? split
    refine ⟨by simpa using clean, String.toList_inj.1 ?_⟩
    simp [whole]
  · rintro ⟨clean, rfl⟩
    exact ⟨(before.toList, behind.toList), by simp [listSplitAt?_append clean], by simp⟩

/-- A text without the mark is not split. -/
theorem splitAt?_eq_none_iff {mark : Char} {text : String} :
    splitAt? mark text = none ↔ mark ∉ text.toList := by
  rw [splitAt?, Option.map_eq_none_iff, listSplitAt?_eq_none_iff]

/-- Characters of a kind are taken off the front of a list up to the first one of another kind. -/
theorem span_append {kind : Char → Bool} {front rest : List Char}
    (inside : ∀ c ∈ front, kind c = true) (ends : ∀ c ∈ rest.head?, kind c = false) :
    (front ++ rest).takeWhile kind = front ∧ (front ++ rest).dropWhile kind = rest := by
  rw [List.takeWhile_append_of_pos inside, List.dropWhile_append_of_pos inside]
  cases rest with
  | nil => exact ⟨List.append_nil _, rfl⟩
  | cons c rest =>
    rw [List.takeWhile_cons, List.dropWhile_cons, ends c rfl]
    exact ⟨List.append_nil _, rfl⟩

end StagedTest.Text
