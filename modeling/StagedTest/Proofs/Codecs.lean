import Mathlib.Data.List.Nodup
import Mathlib.Data.List.Perm.Basic
import StagedTest.Proofs.JsonTexts
import StagedTest.Value.Codec

/-!
# What a codec reads back

A record is put together from groups of fields, and so is the argument that it is read back: each
kind of field is faithful, groups of faithful fields are, and a record whose fields have different
names is read back from what is printed of it. The fields of a printed record may be listed in any
order, in every record inside it, and a record may have further fields that no codec knows. A record
in which a field is repeated that its codec knows is not read.
-/
namespace StagedTest

/-! ## Codecs that read back what they print -/

namespace Codec

open Value

variable {α β : Type}

/-- A codec is faithful when it reads back each value from what is printed of it, in whatever order
fields are listed, and prints only what JSON texts can hold and what stands for something. -/
structure Faithful (codec : Codec α) : Prop where
  /-- What is printed is read back. -/
  reads : ∀ ⦃value printed⦄, Reordered (codec.print value) printed →
    codec.decode printed = .ok value
  /-- What is printed can be written. -/
  writable : ∀ value, (codec.print value).Writable
  /-- What is printed stands for something. -/
  solid : ∀ value, isNothing (codec.print value) = false

/-- Whether a value stands for nothing does not depend on the order of fields. -/
theorem isNothing_reordered {first second : Value} (reordered : Reordered first second) :
    isNothing second = isNothing first := by
  cases reordered <;> rfl

/-- What a faithful codec prints never stands for nothing, in whatever order fields are listed. -/
theorem Faithful.isNothing_eq {codec : Codec α} (faithful : codec.Faithful) {value : α}
    {printed : Value} (reordered : Reordered (codec.print value) printed) :
    isNothing printed = false :=
  (isNothing_reordered reordered).trans (faithful.solid value)

/-- Texts are read back. -/
theorem faithful_text : text.Faithful := by
  refine ⟨fun value printed reordered => ?_, .text, fun _ => rfl⟩
  obtain rfl := reordered.eq_of_isScalar trivial
  rfl

/-- Truth values are read back. -/
theorem faithful_bool : bool.Faithful := by
  refine ⟨fun value printed reordered => ?_, .bool, fun _ => rfl⟩
  obtain rfl := reordered.eq_of_isScalar trivial
  rfl

/-- Integers of 64 bits are read back. -/
theorem faithful_int64 : int64.Faithful := by
  refine ⟨fun value _ reordered => ?_, fun value => ?_, fun _ => rfl⟩
  · obtain rfl := reordered.eq_of_isScalar trivial
    have inside : Int64.minValue.toInt ≤ value.toInt ∧ value.toInt ≤ Int64.maxValue.toInt :=
      ⟨value.minValue_le_toInt, value.toInt_le⟩
    change (bounded _ _ _ value.toInt).map Int64.ofInt = _
    rw [bounded, if_pos inside, Except.map, Int64.ofInt_toInt]
  · have low := value.le_toInt
    have high := value.toInt_lt
    have lowest : Nat.pow 2 63 = 9223372036854775808 := rfl
    have highest : Nat.pow 2 64 = 18446744073709551616 := rfl
    exact .integer (by omega) (by omega)

/-- A type that wraps another is read back when unwrapping is undone. -/
theorem Faithful.wrap {codec : Codec α} (faithful : codec.Faithful) {into : α → β} {out : β → α}
    (inverse : ∀ value, into (out value) = value) : (codec.wrap into out).Faithful := by
  refine ⟨fun value printed reordered => ?_, fun value => faithful.writable (out value),
    fun value => faithful.solid (out value)⟩
  change (codec.decode printed).map into = _
  rw [faithful.reads reordered, Except.map, inverse]

/-- A value that is there is read back where it may be absent. -/
theorem Faithful.reads_optional {codec : Codec α} (faithful : codec.Faithful) {value : α}
    {printed : Value} (reordered : Reordered (codec.print value) printed) :
    codec.optional.decode printed = .ok (some value) := by
  change (if isNothing printed then _ else (codec.decode printed).map some) = _
  rw [faithful.isNothing_eq reordered, if_neg Bool.false_ne_true, faithful.reads reordered]
  rfl

/-- Items are read back one by one. -/
theorem Faithful.reads_items {codec : Codec α} (faithful : codec.Faithful) {values : List α}
    {printed : List Value} (each : List.Forall₂ Reordered (values.map codec.print) printed) :
    decodeItems codec printed = .ok values := by
  induction values generalizing printed with
  | nil =>
    obtain rfl := List.forall₂_nil_left_iff.1 each
    rfl
  | cons value rest ih =>
    obtain ⟨item, items, reordered, later, rfl⟩ := List.forall₂_cons_left_iff.1 each
    rw [decodeItems, faithful.reads reordered, ih later]
    rfl

/-- Lists are read back. -/
theorem Faithful.list {codec : Codec α} (faithful : codec.Faithful) : codec.list.Faithful := by
  refine ⟨fun values printed reordered => ?_, fun values => .sequence ?_, fun _ => rfl⟩
  · obtain ⟨items, rfl, each⟩ := reordered_sequence_iff.1 reordered
    exact faithful.reads_items each
  · intro item member
    obtain ⟨value, _, rfl⟩ := List.mem_map.1 member
    exact faithful.writable value

/-- Values with names are read back one by one. -/
theorem Faithful.reads_entries {codec : Codec α} (faithful : codec.Faithful)
    {entries : List (String × α)} {printed : List (String × Value)}
    (each : List.Forall₂ (fun entry field => ReorderedField (entry.1, codec.print entry.2) field)
      entries printed) :
    decodeEntries codec printed = .ok entries := by
  induction each with
  | nil => rfl
  | cons head _ ih =>
    obtain ⟨same, reordered⟩ := head
    rw [decodeEntries, faithful.reads reordered, ih, ← same]
    rfl

/-- Maps are read back. -/
theorem Faithful.map {codec : Codec α} (faithful : codec.Faithful) :
    (Codec.map codec).Faithful := by
  refine ⟨fun map printed reordered => ?_, fun map => .record ?_ ?_, fun _ => rfl⟩
  · obtain ⟨others, shuffled, rfl, each, order⟩ := reordered_record_iff.1 reordered
    -- The entries can be listed in the order in which their fields are.
    obtain ⟨entries, each, listed⟩ :=
      List.perm_comp_forall₂ order.symm (List.forall₂_map_left_iff.1 each).flip
    change (decodeEntries codec shuffled).map StringMap.ofList = _
    rw [faithful.reads_entries each.flip, Except.map, map.ofList_perm listed.symm]
  · rw [List.map_map]
    exact map.nodup_keys
  · intro field member
    obtain ⟨entry, _, rfl⟩ := List.mem_map.1 member
    exact faithful.writable entry.2

/-- Sets of texts are read back. -/
theorem faithful_textSet : textSet.Faithful := by
  refine ⟨fun set printed reordered => ?_, fun set => faithful_text.list.writable set.members,
    fun _ => rfl⟩
  have members : (list text).decode printed = .ok set.members :=
    faithful_text.list.reads reordered
  change ((list text).decode printed).map StringSet.ofList = _
  rw [members, Except.map, StringSet.ofList_members]

/-! ## Reading and printing again -/

/-- What is printed of the value that a document value stands for. -/
def reprint (codec : Codec α) (value : Value) : Except DecodeError Value :=
  (codec.decode value).map codec.print

/-- A codec settles what it reads when it reads back what it prints, from the printed value with its
fields in any order and from its text, and when whatever it reads is printed in a form that
stays. -/
structure Settles (codec : Codec α) : Prop where
  /-- What is printed is read back, in whatever order its fields are listed. -/
  reads : ∀ value printed, Reordered (codec.print value) printed → codec.decode printed = .ok value
  /-- What is printed is read back from its text. -/
  readsText : ∀ value, ∃ printed, Json.parse? (Json.render (codec.print value)) = some printed ∧
    codec.decode printed = .ok value
  /-- What is printed of a value that was read stands for the same, and is printed again of it. -/
  reprints : ∀ value printed, codec.reprint value = .ok printed → ∀ other,
    Reordered printed other → codec.decode other = codec.decode value ∧
      codec.reprint other = .ok printed

/-- A faithful codec settles what it reads. -/
theorem Faithful.settles {codec : Codec α} (faithful : codec.Faithful) : codec.Settles := by
  refine ⟨fun value printed reordered => faithful.reads reordered, fun value => ?_,
    fun value printed read => ?_⟩
  · obtain ⟨printed, reordered, parsed⟩ := Json.parse?_render (faithful.writable value)
    exact ⟨printed, parsed, faithful.reads reordered⟩
  · cases decoded : codec.decode value with
    | error complaint =>
      rw [reprint, decoded] at read
      cases read
    | ok found =>
      rw [reprint, decoded] at read
      obtain rfl := Except.ok.inj read
      intro other reordered
      have same : codec.decode other = .ok found := faithful.reads reordered
      refine ⟨same, ?_⟩
      rw [reprint, same]
      rfl

end Codec

/-! ## Groups of fields that are read back -/

namespace Fields

open Value

variable {ρ α β : Type}

/-- A group of fields is faithful when its part of a record is built again from what is printed of
it, wherever its fields stand in the record and whatever other fields the record has. -/
structure Faithful (group : Fields ρ α) (part : ρ → α) : Prop where
  /-- Each of the group's fields is printed at most once, and no others are. -/
  named : ∀ record, ((group.print record).map (·.1)).Sublist group.names
  /-- What is printed can be written. -/
  writable : ∀ record, ∀ field ∈ group.print record, field.2.Writable
  /-- Only the group's fields are checked. -/
  checked : ∀ check ∈ group.checks, check.1 ∈ group.names
  /-- What is printed passes its checks. -/
  passes : group.names.Nodup → ∀ record, ∀ field ∈ group.print record, ∀ check ∈ group.checks,
    check.1 = field.1 → ∀ value, Reordered field.2 value → check.2 value = .ok ()
  /-- The part is built from its fields. -/
  builds : group.names.Nodup → ∀ record fields missing,
    (∀ name ∈ group.names,
      Option.Rel Reordered (lookup name (group.print record)) (lookup name fields)) →
    group.build missing fields = .ok (part record)

/-- Nothing is built from no fields. -/
theorem faithful_pure (value : α) : (pure value : Fields ρ α).Faithful fun _ => value where
  named _ := .slnil
  writable _ _ member := nomatch member
  checked _ member := nomatch member
  passes _ _ _ member := nomatch member
  builds _ _ _ _ _ := rfl

/-- Two groups of fields with different names are read back together. -/
theorem Faithful.seq {first : Fields ρ (α → β)} {second : Fields ρ α} {make : ρ → α → β}
    {part : ρ → α} (head : first.Faithful make) (tail : second.Faithful part) :
    (first <*> second).Faithful fun record => make record (part record) := by
  -- The fields of one group are not among those of the other.
  have firstOnly : ∀ record name, name ∈ first.names → name ∉ second.names →
      lookup name (first.print record ++ second.print record) =
        lookup name (first.print record) := by
    intro record name _ apart
    have none : lookup name (second.print record) = none :=
      lookup_eq_none_iff.2 fun member => apart ((tail.named record).subset member)
    rw [lookup_append, none, Option.or_none]
  have secondOnly : ∀ record name, name ∈ second.names → name ∉ first.names →
      lookup name (first.print record ++ second.print record) =
        lookup name (second.print record) := by
    intro record name _ apart
    have none : lookup name (first.print record) = none :=
      lookup_eq_none_iff.2 fun member => apart ((head.named record).subset member)
    rw [lookup_append, none, Option.none_or]
  refine ⟨?_, ?_, ?_, ?_, ?_⟩
  · intro record
    change ((first.print record ++ second.print record).map (·.1)).Sublist
      (first.names ++ second.names)
    rw [List.map_append]
    exact (head.named record).append (tail.named record)
  · intro record field printed
    rcases List.mem_append.1 printed with printed | printed
    · exact head.writable record field printed
    · exact tail.writable record field printed
  · intro check member
    rcases List.mem_append.1 member with member | member
    · exact List.mem_append_left _ (head.checked check member)
    · exact List.mem_append_right _ (tail.checked check member)
  · intro distinct record field printed check member same value reordered
    obtain ⟨once, onceMore, apart⟩ := List.nodup_append'.1 distinct
    rcases List.mem_append.1 printed with printed | printed <;>
      rcases List.mem_append.1 member with member | member
    · exact head.passes once record field printed check member same value reordered
    · have known := (head.named record).subset (List.mem_map_of_mem printed)
      rw [← same] at known
      exact absurd (tail.checked check member) (apart known)
    · have known := (tail.named record).subset (List.mem_map_of_mem printed)
      rw [← same] at known
      exact absurd known (apart (head.checked check member))
    · exact tail.passes onceMore record field printed check member same value reordered
  · intro distinct record fields missing agree
    obtain ⟨once, onceMore, apart⟩ := List.nodup_append'.1 distinct
    have made : first.build missing fields = .ok (make record) := by
      refine head.builds once record fields missing fun name member => ?_
      rw [← firstOnly record name member (apart member)]
      exact agree name (List.mem_append_left _ member)
    have built : second.build missing fields = .ok (part record) := by
      refine tail.builds onceMore record fields missing fun name member => ?_
      rw [← secondOnly record name member fun other => apart other member]
      exact agree name (List.mem_append_right _ member)
    change (do
      let f ← first.build missing fields
      let x ← second.build missing fields
      return f x) = _
    rw [made, built]
    rfl

/-- A value built from a group of fields is read back with it. -/
theorem Faithful.map {group : Fields ρ α} {part : ρ → α} (faithful : group.Faithful part)
    (make : α → β) : (make <$> group).Faithful fun record => make (part record) :=
  (faithful_pure make).seq faithful

/-- A single field is read back when what is printed of it is, and when its part of a record of
which it is not printed is what its absence stands for. -/
theorem faithful_one {name : String} {codec : Codec α} {print : ρ → Option Value}
    {absent : DecodeError → Except DecodeError α} {part : ρ → α}
    (writable : ∀ record value, print record = some value → value.Writable)
    (present : ∀ record value, print record = some value → ∀ printed, Reordered value printed →
      codec.decode printed = .ok (part record))
    (missing : ∀ record, print record = none → ∀ complaint, absent complaint = .ok (part record)) :
    (one name codec print absent).Faithful part := by
  refine ⟨?_, ?_, ?_, ?_, ?_⟩
  · intro record
    change (((print record).toList.map (name, ·)).map (·.1)).Sublist [name]
    cases print record <;> simp
  · intro record field printed
    obtain ⟨shown, found, rfl⟩ := List.mem_map.1 printed
    exact writable record shown (Option.mem_toList.1 found)
  · intro check member
    obtain rfl := List.mem_singleton.1 member
    exact List.mem_singleton_self name
  · intro _ record field printed check member _ value reordered
    obtain ⟨shown, found, rfl⟩ := List.mem_map.1 printed
    obtain rfl := List.mem_singleton.1 member
    change (codec.decode value).map _ = _
    rw [present record shown (Option.mem_toList.1 found) value reordered]
    rfl
  · intro _ record fields complaint agree
    have same := agree name (List.mem_singleton_self name)
    have shown : lookup name ((print record).toList.map (name, ·)) = print record := by
      cases print record with
      | none => rfl
      | some value => exact if_pos rfl
    change Option.Rel Reordered (lookup name ((print record).toList.map (name, ·))) _ at same
    rw [shown] at same
    generalize found : lookup name fields = read, printed : print record = expected at same
    simp only [one, found]
    cases same with
    | none => exact missing record printed _
    | some reordered => exact present record _ printed _ reordered

/-- A single field that is always printed is read back, whatever its absence stands for. -/
theorem faithful_always (name : String) {codec : Codec α} (faithful : codec.Faithful)
    (absent : DecodeError → Except DecodeError α) (get : ρ → α) :
    (one name codec (fun record => some (codec.print (get record))) absent).Faithful get := by
  refine faithful_one (fun record value printed => ?_) (fun record value printed => ?_)
    fun record printed => nomatch printed
  · obtain rfl := Option.some.inj printed
    exact faithful.writable _
  · obtain rfl := Option.some.inj printed
    exact fun _ reordered => faithful.reads reordered

/-- A field that must be present is read back. -/
theorem faithful_required (name : String) {codec : Codec α} (faithful : codec.Faithful)
    (get : ρ → α) : (required name codec get).Faithful get :=
  faithful_always name faithful .error get

/-- A field with a value of its own when absent is read back, as it is always printed. -/
theorem faithful_defaulted (name : String) {codec : Codec α} (faithful : codec.Faithful)
    (default : α) (get : ρ → α) : (defaulted name codec default get).Faithful get :=
  faithful_always name faithful (fun _ => .ok default) get

/-- A field that may be absent is read back, as it is absent only without a value. -/
theorem faithful_optional (name : String) {codec : Codec α} (faithful : codec.Faithful)
    (get : ρ → Option α) : (optional name codec get).Faithful get := by
  refine faithful_one (fun record value printed => ?_) (fun record value printed => ?_)
    fun record printed _ => ?_
  · obtain ⟨own, _, rfl⟩ := Option.map_eq_some_iff.1 printed
    exact faithful.writable own
  · obtain ⟨own, has, rfl⟩ := Option.map_eq_some_iff.1 printed
    intro _ reordered
    rw [faithful.reads_optional reordered, has]
  · rw [Option.map_eq_none_iff.1 printed]

/-- A text that is not printed when empty is read back, as it is empty when absent. -/
theorem faithful_textUnlessEmpty (name : String) (get : ρ → String) :
    (textUnlessEmpty name get).Faithful get := by
  refine faithful_one (fun record value printed => ?_) (fun record value printed => ?_)
    fun record printed _ => ?_
  · split at printed
    · cases printed
    · obtain rfl := Option.some.inj printed
      exact .text _
  · split at printed
    · cases printed
    · obtain rfl := Option.some.inj printed
      exact fun _ reordered => Codec.faithful_text.reads reordered
  · split at printed
    · rename_i empty
      rw [empty]
    · cases printed

/-- A field that takes a value of its own when absent or null is read back, as it is always
printed. -/
theorem faithful_lenient (name : String) {codec : Codec α} (faithful : codec.Faithful)
    (default : α) (get : ρ → α) : (lenient name codec default get).Faithful get := by
  refine ⟨?_, ?_, ?_, ?_, ?_⟩
  · exact fun _ => .refl _
  · intro record field printed
    obtain rfl := List.mem_singleton.1 printed
    exact faithful.writable (get record)
  · intro check member
    obtain rfl := List.mem_singleton.1 member
    exact List.mem_singleton_self name
  · intro _ record field printed check member _ value reordered
    obtain rfl := List.mem_singleton.1 printed
    obtain rfl := List.mem_singleton.1 member
    change (codec.optional.decode value).map _ = _
    rw [faithful.reads_optional reordered]
    rfl
  · intro _ record fields complaint agree
    have same := agree name (List.mem_singleton_self name)
    change Option.Rel Reordered (lookup name [(name, codec.print (get record))]) _ at same
    rw [lookup, if_pos rfl] at same
    generalize found : lookup name fields = read at same
    cases same with
    | some reordered =>
      simp only [lenient, found, faithful.reads_optional reordered]
      rfl

/-! ## Records that are read back -/

variable {group : Fields ρ α} {part : ρ → α}

/-- Fields pass the checks of a group when each of them does. -/
theorem check_eq_ok {fields : List (String × Value)}
    (each : ∀ field ∈ fields, ∀ check ∈ group.checks, check.1 = field.1 →
      check.2 field.2 = .ok ()) :
    group.check fields = .ok () := by
  induction fields with
  | nil => rfl
  | cons field rest ih =>
    obtain ⟨name, value⟩ := field
    have first : group.checkField name value = .ok () := by
      rw [checkField]
      split
      · rename_i key test found
        have named := List.find?_some found
        exact each _ List.mem_cons_self _ (List.mem_of_find?_eq_some found) (eq_of_beq named)
      · rfl
    rw [check, first, ih fun field member => each field (List.mem_cons_of_mem _ member)]
    rfl

/-- Where no name is given twice, and none that was seen before, the fields are only checked. -/
theorem checkOnce_eq_check (group : Fields ρ α) {seen : List String}
    {fields : List (String × Value)} (once : (fields.map (·.1)).Nodup)
    (fresh : ∀ name ∈ seen, name ∉ fields.map (·.1)) :
    group.checkOnce seen fields = group.check fields := by
  induction fields generalizing seen with
  | nil => rfl
  | cons field rest ih =>
    obtain ⟨name, value⟩ := field
    obtain ⟨apart, later⟩ := List.nodup_cons.1 once
    have unseen : seen.contains name = false := by
      rw [List.contains_eq_mem, decide_eq_false_iff_not]
      exact fun member => fresh name member List.mem_cons_self
    have freshLater : ∀ other ∈ name :: seen, other ∉ rest.map (·.1) := by
      intro other member
      rcases List.mem_cons.1 member with rfl | member
      · exact apart
      · exact fun among => fresh other member (List.mem_cons_of_mem _ among)
    rw [checkOnce, unseen, Bool.and_false, if_neg Bool.false_ne_true, check, ih later freshLater]

/-- Fields that pass have each known name once, and none that was seen before. -/
theorem nodup_of_checkOnce {seen : List String} {fields : List (String × Value)}
    (passed : group.checkOnce seen fields = .ok ()) :
    ((fields.map (·.1)).filter (group.names.contains ·)).Nodup ∧
      ∀ name ∈ fields.map (·.1), name ∈ group.names → name ∉ seen := by
  induction fields generalizing seen with
  | nil => exact ⟨.nil, fun _ member => nomatch member⟩
  | cons field rest ih =>
    obtain ⟨name, value⟩ := field
    rw [checkOnce] at passed
    split at passed
    · cases passed
    rename_i unrepeated
    have fresh : name ∈ group.names → name ∉ seen := by simpa using unrepeated
    cases checked : group.checkField name value with
    | error complaint =>
      rw [checked] at passed
      cases passed
    | ok =>
      rw [checked] at passed
      obtain ⟨once, apart⟩ := ih passed
      constructor
      · rw [List.map_cons, List.filter_cons]
        split
        · rename_i known
          refine List.nodup_cons.2 ⟨fun again => ?_, once⟩
          have among := List.mem_of_mem_filter again
          exact apart name among (List.contains_iff_mem.1 known) List.mem_cons_self
        · exact once
      · intro other member known
        rcases List.mem_cons.1 member with rfl | member
        · exact fresh known
        · exact fun before => apart other member known (List.mem_cons_of_mem _ before)

/-- Only a record in which no known field is repeated is read. -/
theorem nodup_of_decodeRecord {fields : List (String × Value)} {value : α}
    (read : group.decodeRecord fields = .ok value) :
    ((fields.map (·.1)).filter (group.names.contains ·)).Nodup := by
  cases checked : group.checkOnce [] fields with
  | error complaint =>
    rw [decodeRecord, checked] at read
    cases read
  | ok => exact (nodup_of_checkOnce checked).1

/-- Fields of different names pass the checks of a group where those of the group are as they are
printed. -/
theorem Faithful.check_eq (faithful : group.Faithful part) (distinct : group.names.Nodup)
    {record : ρ} {fields : List (String × Value)} (once : (fields.map (·.1)).Nodup)
    (agree : ∀ name ∈ group.names,
      Option.Rel Reordered (lookup name (group.print record)) (lookup name fields)) :
    group.check fields = .ok () := by
  refine check_eq_ok fun field member check known same => ?_
  have found : lookup field.1 fields = some field.2 := lookup_of_mem once member
  have printed := agree field.1 (same ▸ faithful.checked check known)
  rw [found] at printed
  generalize shown : lookup field.1 (group.print record) = expected at printed
  cases printed with
  | some reordered =>
    exact faithful.passes distinct record _ (mem_of_lookup shown) check known same _ reordered

/-- What is printed of a record has no name twice. -/
theorem Faithful.nodup_print (faithful : group.Faithful part) (distinct : group.names.Nodup)
    (record : ρ) : ((group.print record).map (·.1)).Nodup :=
  (faithful.named record).nodup distinct

/-- What is printed of a record can be written. -/
theorem Faithful.writable_record (faithful : group.Faithful part) (distinct : group.names.Nodup)
    (record : ρ) : (Value.record (group.print record)).Writable :=
  .record (faithful.nodup_print distinct record) (faithful.writable record)

/-- The fields of a reordered record have different names, and each of them is reordered. -/
theorem of_reordered_record {fields shuffled others : List (String × Value)}
    (once : (fields.map (·.1)).Nodup) (each : List.Forall₂ ReorderedField fields others)
    (order : others.Perm shuffled) :
    (shuffled.map (·.1)).Nodup ∧
      ∀ name, Option.Rel Reordered (lookup name fields) (lookup name shuffled) := by
  have same := (forall₂_reorderedField_iff.1 each).1
  have onceMore : (others.map (·.1)).Nodup := same ▸ once
  refine ⟨(order.map _).nodup_iff.1 onceMore, fun name => ?_⟩
  rw [lookup_perm order onceMore]
  exact rel_lookup each name

/-- The part of a record is read back where no name may be given twice. -/
theorem Faithful.decodeRecord_eq (faithful : group.Faithful part) (distinct : group.names.Nodup)
    {record : ρ} {fields : List (String × Value)} (once : (fields.map (·.1)).Nodup)
    (agree : ∀ name ∈ group.names,
      Option.Rel Reordered (lookup name (group.print record)) (lookup name fields)) :
    group.decodeRecord fields = .ok (part record) := by
  have fresh : ∀ name ∈ [], name ∉ fields.map (·.1) := fun _ member => nomatch member
  rw [decodeRecord, group.checkOnce_eq_check once fresh, faithful.check_eq distinct once agree]
  exact faithful.builds distinct record fields .missingField agree

/-- A record type is read back from its fields. -/
theorem Faithful.codec {group : Fields α α} (faithful : group.Faithful fun record => record)
    (distinct : group.names.Nodup) (name : String) : (group.codec name).Faithful := by
  refine ⟨fun record printed reordered => ?_, faithful.writable_record distinct, fun _ => rfl⟩
  obtain ⟨others, shuffled, rfl, each, order⟩ := reordered_record_iff.1 reordered
  obtain ⟨once, agree⟩ := of_reordered_record (faithful.nodup_print distinct record) each order
  exact faithful.decodeRecord_eq distinct once fun name _ => agree name

/-- A record type of the cluster's interface is read back from its fields. -/
theorem Faithful.objectCodec {group : Fields α α} (faithful : group.Faithful fun record => record)
    (distinct : group.names.Nodup) (name : String) : (group.objectCodec name).Faithful := by
  refine ⟨fun record printed reordered => ?_, faithful.writable_record distinct, fun _ => rfl⟩
  obtain ⟨others, shuffled, rfl, each, order⟩ := reordered_record_iff.1 reordered
  have printed := faithful.nodup_print distinct record
  obtain ⟨once, agree⟩ := of_reordered_record printed each order
  -- The record is built from its fields in key order, which is one more order.
  have sorted := order.trans (StringMap.entries_ofList_perm once).symm
  obtain ⟨_, agreeSorted⟩ := of_reordered_record printed each sorted
  change (group.check shuffled).bind (fun _ => group.build .missingField _) = _
  rw [faithful.check_eq distinct once fun name _ => agree name]
  exact faithful.builds distinct record _ .missingField fun name _ => agreeSorted name

end Fields

end StagedTest
