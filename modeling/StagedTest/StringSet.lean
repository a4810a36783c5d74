import StagedTest.StringMap

/-!
# Sets of texts

The images that a pipeline builds, and the tags that a test needs from it, are sets listed in
order, character by character. A `StringSet` holds its members strictly increasing, so a set
has one listing. The main statements say what an insertion does to membership, and that a set
built from its own members is that set.
-/
namespace StagedTest

/-- Texts in strictly increasing order. -/
structure StringSet where
  /-- The members, in order. -/
  members : List String
  /-- Each member is below every later one. -/
  sorted : members.Pairwise (· < ·)

namespace StringSet

/-- Puts a text at its place in order, unless it is there. -/
def insertMember (text : String) : List String → List String
  | [] => [text]
  | head :: rest =>
    if text < head then text :: head :: rest
    else if text = head then head :: rest
    else head :: insertMember text rest

/-- The members after an insertion are the new text and the old members. -/
theorem mem_insertMember {text other : String} {members : List String} :
    other ∈ insertMember text members ↔ other = text ∨ other ∈ members := by
  induction members with
  | nil => simp [insertMember]
  | cons head rest ih =>
    rw [insertMember]
    split
    · simp
    · split
      · rename_i same
        subst same
        simp
      · simp only [List.mem_cons, ih]
        grind

/-- An insertion keeps the order. -/
theorem insertMember_sorted (text : String) {members : List String}
    (sorted : members.Pairwise (· < ·)) : (insertMember text members).Pairwise (· < ·) := by
  induction members with
  | nil => simp [insertMember]
  | cons head rest ih =>
    obtain ⟨above, tail⟩ := List.pairwise_cons.1 sorted
    rw [insertMember]
    split
    · rename_i below
      refine List.pairwise_cons.2 ⟨fun other member => ?_, sorted⟩
      rcases List.mem_cons.1 member with rfl | member
      · exact below
      · exact String.lt_trans below (above other member)
    · rename_i notBelow
      split
      · exact sorted
      · rename_i differ
        refine List.pairwise_cons.2 ⟨fun other member => ?_, ih tail⟩
        rcases mem_insertMember.1 member with rfl | member
        · exact StringMap.lt_of_not_lt_of_ne notBelow differ
        · exact above other member

/-- The set without members. -/
def empty : StringSet := ⟨[], .nil⟩

instance : Inhabited StringSet := ⟨empty⟩

instance : EmptyCollection StringSet := ⟨empty⟩

/-- Adds a text. -/
def insert (set : StringSet) (text : String) : StringSet :=
  ⟨insertMember text set.members, insertMember_sorted text set.sorted⟩

/-- Whether a text is a member. -/
def contains (set : StringSet) (text : String) : Bool := set.members.contains text

/-- The set of the texts of a list. -/
def ofList (texts : List String) : StringSet := texts.foldl insert empty

/-- Two sets with the same members in order are the same set. -/
@[ext] theorem ext {a b : StringSet} (same : a.members = b.members) : a = b := by
  cases a; cases b; cases same; rfl

/-- The members after an insertion are the new text and the old members. -/
@[simp] theorem mem_insert {set : StringSet} {text other : String} :
    other ∈ (set.insert text).members ↔ other = text ∨ other ∈ set.members :=
  mem_insertMember

/-- Adding texts one after the other makes all of them members. -/
theorem mem_foldl_insert {set : StringSet} {texts : List String} {other : String} :
    other ∈ (texts.foldl insert set).members ↔ other ∈ texts ∨ other ∈ set.members := by
  induction texts generalizing set with
  | nil => simp
  | cons text rest ih =>
    rw [List.foldl_cons, ih, mem_insert, List.mem_cons]
    grind

/-- The members of the set of the texts of a list are these texts. -/
@[simp] theorem mem_ofList {texts : List String} {other : String} :
    other ∈ (ofList texts).members ↔ other ∈ texts := by
  rw [ofList, mem_foldl_insert]
  exact or_iff_left List.not_mem_nil

/-- Adding a text above all members appends it. -/
theorem insertMember_append (text : String) {members : List String}
    (last : ∀ other ∈ members, other < text) : insertMember text members = members ++ [text] := by
  induction members with
  | nil => rfl
  | cons head rest ih =>
    have below : head < text := last head (by simp)
    have notAbove : ¬text < head := String.lt_asymm below
    have differ : text ≠ head := fun h => String.lt_irrefl head (h ▸ below)
    simp [insertMember, notAbove, differ, ih fun other member => last other (by simp [member])]

/-- Adding increasing texts above the members of a set appends them. -/
theorem foldl_insert_members (set : StringSet) (texts : List String)
    (sorted : (set.members ++ texts).Pairwise (· < ·)) :
    (texts.foldl insert set).members = set.members ++ texts := by
  induction texts generalizing set with
  | nil => simp
  | cons text rest ih =>
    have above : ∀ other ∈ set.members, other < text := fun other member =>
      (List.pairwise_append.1 sorted).2.2 other member text (by simp)
    have step : (set.insert text).members = set.members ++ [text] := insertMember_append text above
    have whole := ih (set.insert text) (by rw [step]; simpa using sorted)
    simpa [step] using whole

/-- A set built from its own members is that set. -/
@[simp] theorem ofList_members (set : StringSet) : ofList set.members = set := by
  apply ext
  have whole := foldl_insert_members empty set.members (by simpa [empty] using set.sorted)
  simpa [ofList, empty] using whole

end StringSet

end StagedTest
