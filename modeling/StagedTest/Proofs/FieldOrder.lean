import Mathlib.Data.List.Forall2
import StagedTest.Value

/-!
# The order of fields

Whoever reads a record finds its fields by their names, so the order in which they are listed does
not matter. Two values are the same but for that order, in all records inside them, when one is
`Reordered` from the other; the main statement is that the fields that are found in them are.
-/
namespace StagedTest

namespace Value

/-- A value is another one with the fields of its records in some order. -/
inductive Reordered : Value → Value → Prop
  /-- The order may be kept. -/
  | same (value : Value) : Reordered value value
  /-- The items of a list stay in order. -/
  | sequence {items others : List Value} (each : List.Forall₂ Reordered items others) :
      Reordered (.sequence items) (.sequence others)
  /-- The fields of a record keep their names and may be listed in another order. -/
  | record {fields others shuffled : List (String × Value)}
      (names : fields.map (·.1) = others.map (·.1))
      (each : List.Forall₂ Reordered (fields.map (·.2)) (others.map (·.2)))
      (order : others.Perm shuffled) : Reordered (.record fields) (.record shuffled)

/-- A field is another one of the same name with a reordered value. -/
def ReorderedField (field other : String × Value) : Prop :=
  field.1 = other.1 ∧ Reordered field.2 other.2

/-- A value that holds no others. -/
def IsScalar : Value → Prop
  | .sequence _ | .record _ => False
  | _ => True

/-- A value that holds no others is only reordered into itself. -/
theorem Reordered.eq_of_isScalar {value other : Value} (reordered : Reordered value other)
    (scalar : value.IsScalar) : other = value := by
  cases reordered with
  | same => rfl
  | sequence | record => exact scalar.elim

/-- The items of a reordered list are reordered one by one. -/
theorem reordered_sequence_iff {items : List Value} {value : Value} :
    Reordered (.sequence items) value ↔
      ∃ others, value = .sequence others ∧ List.Forall₂ Reordered items others := by
  constructor
  · intro reordered
    cases reordered with
    | same => exact ⟨items, rfl, List.forall₂_same.2 fun item _ => .same item⟩
    | sequence each => exact ⟨_, rfl, each⟩
  · rintro ⟨others, rfl, each⟩
    exact .sequence each

/-- Fields with the same names and reordered values are reordered fields. -/
theorem forall₂_reorderedField_iff {fields others : List (String × Value)} :
    List.Forall₂ ReorderedField fields others ↔ fields.map (·.1) = others.map (·.1) ∧
      List.Forall₂ Reordered (fields.map (·.2)) (others.map (·.2)) := by
  induction fields generalizing others with
  | nil => cases others <;> simp
  | cons field rest ih =>
    cases others with
    | nil => simp
    | cons other others =>
      rw [List.forall₂_cons, ih, List.map_cons, List.map_cons, List.map_cons, List.map_cons,
        List.forall₂_cons, List.cons.injEq, ReorderedField]
      tauto

/-- The fields of a reordered record are reordered one by one, and then listed in some order. -/
theorem reordered_record_iff {fields : List (String × Value)} {value : Value} :
    Reordered (.record fields) value ↔ ∃ others shuffled, value = .record shuffled ∧
      List.Forall₂ ReorderedField fields others ∧ others.Perm shuffled := by
  constructor
  · intro reordered
    cases reordered with
    | same =>
      exact ⟨fields, fields, rfl, List.forall₂_same.2 fun field _ => ⟨rfl, .same _⟩, .refl _⟩
    | record names each order =>
      exact ⟨_, _, rfl, forall₂_reorderedField_iff.2 ⟨names, each⟩, order⟩
  · rintro ⟨others, shuffled, rfl, each, order⟩
    obtain ⟨names, values⟩ := forall₂_reorderedField_iff.1 each
    exact .record names values order

/-! ## Fields by name -/

/-- A field that is found is one of the fields. -/
theorem mem_of_lookup {name : String} {value : Value} {fields : List (String × Value)}
    (found : lookup name fields = some value) : (name, value) ∈ fields := by
  induction fields with
  | nil => cases found
  | cons field rest ih =>
    obtain ⟨key, first⟩ := field
    rw [lookup] at found
    split at found
    · rename_i same
      cases found
      rw [same]
      exact List.mem_cons_self
    · exact List.mem_cons_of_mem _ (ih found)

/-- Where no name is given twice, each field is found by its name. -/
theorem lookup_of_mem {name : String} {value : Value} {fields : List (String × Value)}
    (once : (fields.map (·.1)).Nodup) (member : (name, value) ∈ fields) :
    lookup name fields = some value := by
  induction fields with
  | nil => cases member
  | cons field rest ih =>
    obtain ⟨key, first⟩ := field
    obtain ⟨fresh, later⟩ := List.nodup_cons.1 once
    rw [lookup]
    rcases List.mem_cons.1 member with here | there
    · cases here
      exact if_pos rfl
    · have differ : key ≠ name := by
        rintro rfl
        exact fresh (List.mem_map.2 ⟨_, there, rfl⟩)
      rw [if_neg differ]
      exact ih later there

/-- A field is not found exactly if no field has its name. -/
theorem lookup_eq_none_iff {name : String} {fields : List (String × Value)} :
    lookup name fields = none ↔ name ∉ fields.map (·.1) := by
  induction fields with
  | nil => simp [lookup]
  | cons field rest ih =>
    obtain ⟨key, first⟩ := field
    rw [lookup, List.map_cons, List.mem_cons]
    by_cases same : key = name
    · simp [same]
    · rw [if_neg same, ih]
      simp [Ne.symm same]

/-- A field of two lists is the one of the first list, or else that of the second. -/
theorem lookup_append (name : String) (fields others : List (String × Value)) :
    lookup name (fields ++ others) = (lookup name fields).or (lookup name others) := by
  induction fields with
  | nil => rfl
  | cons field rest ih =>
    rw [List.cons_append, lookup, lookup, ih]
    split <;> rfl

/-- Where no name is given twice, a field is found in whatever order the fields are listed. -/
theorem lookup_perm {fields shuffled : List (String × Value)} (order : fields.Perm shuffled)
    (once : (fields.map (·.1)).Nodup) (name : String) :
    lookup name shuffled = lookup name fields := by
  have onceShuffled : (shuffled.map (·.1)).Nodup := (order.map _).nodup_iff.1 once
  cases found : lookup name fields with
  | none =>
    rw [lookup_eq_none_iff] at found ⊢
    rwa [← (order.map _).mem_iff]
  | some value => exact lookup_of_mem onceShuffled (order.subset (mem_of_lookup found))

/-- Fields that are looked up in reordered fields are reordered. -/
theorem rel_lookup {fields others : List (String × Value)}
    (each : List.Forall₂ ReorderedField fields others) (name : String) :
    Option.Rel Reordered (lookup name fields) (lookup name others) := by
  induction each with
  | nil => exact .none
  | cons head _ ih =>
    obtain ⟨same, reordered⟩ := head
    rw [lookup, lookup, same]
    split
    · exact .some reordered
    · exact ih

end Value

end StagedTest
