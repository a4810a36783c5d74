/-!
# Maps keyed by text

Labels, environments and resource lists are ordered by their keys, character by character. A
`StringMap` holds its entries in strictly increasing key order, so two maps with the same
entries are the same value, and every listing of a map has one order. The main statements say
what an insertion does to a look-up, and that a map built from its own entries is that map.
-/
namespace StagedTest

/-- Entries by strictly increasing key. -/
structure StringMap (α : Type) where
  /-- The entries, in key order. -/
  entries : List (String × α)
  /-- Each key is below every later one. -/
  sorted : entries.Pairwise fun a b => a.1 < b.1

namespace StringMap

variable {α : Type}

/-- Puts an entry at its place in key order, in place of an entry with the same key. -/
def insertEntry (key : String) (value : α) : List (String × α) → List (String × α)
  | [] => [(key, value)]
  | (k, v) :: rest =>
    if key < k then (key, value) :: (k, v) :: rest
    else if key = k then (key, value) :: rest
    else (k, v) :: insertEntry key value rest

/-- Only the new entry and the old ones are in the list after an insertion. -/
theorem mem_insertEntry {key : String} {value : α} {entry : String × α}
    {entries : List (String × α)} (found : entry ∈ insertEntry key value entries) :
    entry = (key, value) ∨ entry ∈ entries := by
  induction entries with
  | nil => simpa [insertEntry] using found
  | cons head rest ih =>
    obtain ⟨k, v⟩ := head
    rw [insertEntry] at found
    split at found
    · simpa using found
    · split at found
      · simp only [List.mem_cons] at found ⊢
        exact found.elim Or.inl fun h => .inr (.inr h)
      · simp only [List.mem_cons] at found ⊢
        exact found.elim (fun h => .inr (.inl h)) fun h => (ih h).elim .inl fun h => .inr (.inr h)

/-- Of two different texts one is below the other. -/
theorem lt_of_not_lt_of_ne {a b : String} (notBelow : ¬a < b) (differ : a ≠ b) : b < a := by
  rcases Decidable.em (b < a) with h | h
  · exact h
  · exact absurd (String.le_antisymm (String.not_lt.1 h) (String.not_lt.1 notBelow)) differ

/-- An insertion keeps the key order. -/
theorem insertEntry_sorted (key : String) (value : α) {entries : List (String × α)}
    (sorted : entries.Pairwise fun a b => a.1 < b.1) :
    (insertEntry key value entries).Pairwise fun a b => a.1 < b.1 := by
  induction entries with
  | nil => simp [insertEntry]
  | cons head rest ih =>
    obtain ⟨k, v⟩ := head
    obtain ⟨above, tail⟩ := List.pairwise_cons.1 sorted
    rw [insertEntry]
    split
    · rename_i below
      refine List.pairwise_cons.2 ⟨fun entry member => ?_, sorted⟩
      rcases List.mem_cons.1 member with rfl | member
      · exact below
      · exact String.lt_trans below (above entry member)
    · rename_i notBelow
      split
      · rename_i same
        subst same
        exact List.pairwise_cons.2 ⟨above, tail⟩
      · rename_i differ
        refine List.pairwise_cons.2 ⟨fun entry member => ?_, ih tail⟩
        rcases mem_insertEntry member with rfl | member
        · exact lt_of_not_lt_of_ne notBelow differ
        · exact above entry member

/-- The map without entries. -/
def empty : StringMap α := ⟨[], .nil⟩

instance : Inhabited (StringMap α) := ⟨empty⟩

instance : EmptyCollection (StringMap α) := ⟨empty⟩

/-- Sets the value of a key. -/
def insert (map : StringMap α) (key : String) (value : α) : StringMap α :=
  ⟨insertEntry key value map.entries, insertEntry_sorted key value map.sorted⟩

/-- The value of a key in a list of entries. -/
def find? (key : String) : List (String × α) → Option α
  | [] => none
  | (k, v) :: rest => if k = key then some v else find? key rest

/-- The value of a key. -/
def get? (map : StringMap α) (key : String) : Option α := find? key map.entries

/-- Whether a key has a value. -/
def contains (map : StringMap α) (key : String) : Bool := (map.get? key).isSome

/-- Whether there are no entries. -/
def isEmpty (map : StringMap α) : Bool := map.entries.isEmpty

/-- The values, in key order. -/
def values (map : StringMap α) : List α := map.entries.map (·.2)

/-- The map of a list of entries; of two entries with one key the later counts. -/
def ofList (entries : List (String × α)) : StringMap α :=
  entries.foldl (fun map (key, value) => map.insert key value) empty

/-- Two maps with the same entries are the same map. -/
@[ext] theorem ext {a b : StringMap α} (same : a.entries = b.entries) : a = b := by
  cases a; cases b; cases same; rfl

/-- In a list of entries an insertion sets its key and leaves every other key alone. -/
theorem find?_insertEntry (key other : String) (value : α) (entries : List (String × α)) :
    find? other (insertEntry key value entries) =
      if key = other then some value else find? other entries := by
  induction entries with
  | nil => simp [insertEntry, find?]
  | cons head rest ih =>
    obtain ⟨k, v⟩ := head
    rw [insertEntry]
    split
    · by_cases same : key = other <;> simp [find?, same]
    · split
      · rename_i same
        subst same
        by_cases same : key = other <;> simp [find?, same]
      · rename_i differ
        by_cases first : k = other
        · subst first
          simp [find?, differ]
        · simp [find?, first, ih]

/-- An insertion sets its key and leaves every other key alone. -/
@[simp] theorem get?_insert (map : StringMap α) (key other : String) (value : α) :
    (map.insert key value).get? other = if key = other then some value else map.get? other :=
  find?_insertEntry key other value map.entries

/-- The empty map has no value for any key. -/
@[simp] theorem get?_empty (key : String) : (empty : StringMap α).get? key = none := rfl

/-- The entries of a map are its keys with their values. -/
theorem mem_entries_iff (map : StringMap α) {key : String} {value : α} :
    (key, value) ∈ map.entries ↔ map.get? key = some value := by
  obtain ⟨entries, sorted⟩ := map
  change _ ↔ find? key entries = some value
  induction entries with
  | nil => simp [find?]
  | cons head rest ih =>
    obtain ⟨k, v⟩ := head
    obtain ⟨above, tail⟩ := List.pairwise_cons.1 sorted
    rw [find?, List.mem_cons]
    split
    · rename_i same
      subst same
      constructor
      · rintro (found | member)
        · rw [(Prod.mk.inj found).2]
        · exact absurd (above _ member) (String.lt_irrefl k)
      · intro found
        exact .inl (by rw [Option.some.inj found])
    · rename_i differ
      rw [← ih tail]
      constructor
      · rintro (found | member)
        · exact absurd (Prod.mk.inj found).1.symm differ
        · exact member
      · exact .inr

/-- No key of a map is given twice. -/
theorem nodup_keys (map : StringMap α) : (map.entries.map (·.1)).Nodup := by
  refine List.pairwise_map.2 (map.sorted.imp ?_)
  intro first second below same
  rw [same] at below
  exact String.lt_irrefl _ below

/-- Putting an entry with a new key at its place among others only adds it. -/
theorem insertEntry_perm (key : String) (value : α) {entries : List (String × α)}
    (fresh : key ∉ entries.map (·.1)) :
    (insertEntry key value entries).Perm ((key, value) :: entries) := by
  induction entries with
  | nil => exact .refl _
  | cons head rest ih =>
    obtain ⟨k, v⟩ := head
    rw [List.map_cons, List.mem_cons, not_or] at fresh
    rw [insertEntry]
    split
    · exact .refl _
    · rw [if_neg fresh.1]
      exact ((ih fresh.2).cons _).trans (.swap _ _ _)

/-- Inserting entries with new and different keys one after the other only adds them. -/
theorem foldl_insert_perm (map : StringMap α) {entries : List (String × α)}
    (once : ((map.entries ++ entries).map (·.1)).Nodup) :
    (entries.foldl (fun map (key, value) => map.insert key value) map).entries.Perm
      (map.entries ++ entries) := by
  induction entries generalizing map with
  | nil => simp
  | cons head rest ih =>
    obtain ⟨key, value⟩ := head
    have moved : (map.entries ++ (key, value) :: rest).Perm
        ((key, value) :: map.entries ++ rest) := List.perm_middle
    have onceMoved := (moved.map (·.1)).nodup_iff.1 once
    have fresh : key ∉ map.entries.map (·.1) := by
      simp only [List.cons_append, List.map_cons, List.map_append, List.nodup_cons,
        List.mem_append, not_or] at onceMoved
      exact onceMoved.1.1
    have step : (map.insert key value).entries.Perm ((key, value) :: map.entries) :=
      insertEntry_perm key value fresh
    have onceStep := ((step.append_right rest).map (·.1)).nodup_iff.2 onceMoved
    exact (ih _ onceStep).trans ((step.append_right rest).trans moved.symm)

/-- The map of entries with different keys has exactly these entries. -/
theorem entries_ofList_perm {entries : List (String × α)} (once : (entries.map (·.1)).Nodup) :
    (ofList entries).entries.Perm entries :=
  foldl_insert_perm empty once

/-- A map built from its own entries in some order is that map. -/
theorem ofList_perm (map : StringMap α) {entries : List (String × α)}
    (order : map.entries.Perm entries) : ofList entries = map := by
  have once := (order.map (·.1)).nodup_iff.1 map.nodup_keys
  have same := (entries_ofList_perm once).trans order.symm
  -- Both lists of entries are in order, so they are the same list.
  have antisymm : ∀ a b : String × α, a ∈ (ofList entries).entries → b ∈ map.entries →
      a.1 < b.1 → b.1 < a.1 → a = b := fun a b _ _ below above =>
    absurd (String.lt_trans below above) (String.lt_irrefl _)
  exact ext (same.eq_of_pairwise antisymm (ofList entries).sorted map.sorted)

/-- A map built from its own entries is that map. -/
@[simp] theorem ofList_entries (map : StringMap α) : ofList map.entries = map :=
  map.ofList_perm (.refl _)

end StringMap

end StagedTest
