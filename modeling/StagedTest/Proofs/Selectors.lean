import StagedTest.Client
import StagedTest.Network
import StagedTest.Proofs.Exchanges
import StagedTest.Proofs.Queries

/-!
# Labels as a condition

Objects are deleted together by a condition on their labels, which goes to the cluster as one text
in the query of a request. If the text could be read in another way than it was meant, objects of
other tests would be deleted. The main statement is that it cannot: labels whose keys and values
leave out the marks that separate them are read back from the text, and from the request.
-/
namespace StagedTest

namespace Client

/-! ## Labels in one text -/

/-- The labels that a condition asks for: the text is split at its commas, and each part at its
first equals sign. -/
def readSelector? (selector : String) : Option (List (String × String)) :=
  (Text.parts ',' selector).mapM (Text.splitAt? '=')

/-- Labels that leave out the marks that separate them. A value may be empty, and it may have an
equals sign. -/
structure Separable (labels : StringMap String) : Prop where
  /-- There is a label. -/
  nonempty : labels.entries ≠ []
  /-- No key has a mark. -/
  keys : ∀ entry ∈ labels.entries, '=' ∉ entry.1.toList ∧ ',' ∉ entry.1.toList
  /-- No value has the mark between labels. -/
  values : ∀ entry ∈ labels.entries, ',' ∉ entry.2.toList

/-- Labels are read back from the condition that asks for them. -/
theorem readSelector?_labelSelector {labels : StringMap String} (clean : Separable labels) :
    readSelector? (labelSelector labels) = some labels.entries := by
  have texts : Text.parts ',' (labelSelector labels) = labels.entries.map Text.assignment :=
    Text.parts_assignments (by decide) clean.nonempty
      fun entry among => ⟨(clean.keys entry among).2, clean.values entry among⟩
  have read : ∀ entries : List (String × String), (∀ entry ∈ entries, '=' ∉ entry.1.toList) →
      (entries.map Text.assignment).mapM (Text.splitAt? '=') = some entries := by
    intro entries plain
    induction entries with
    | nil => rfl
    | cons entry rest ih =>
      obtain ⟨first, others⟩ := List.forall_mem_cons.1 plain
      rw [List.map_cons, List.mapM_cons, Text.splitAt?_assignment first, ih others]
      rfl
  unfold readSelector?
  rw [texts]
  exact read labels.entries fun entry among => (clean.keys entry among).1

/-- Different labels make different conditions. -/
theorem labelSelector_injOn {labels others : StringMap String} (clean : Separable labels)
    (cleanToo : Separable others) (same : labelSelector labels = labelSelector others) :
    labels = others := by
  have entries : some labels.entries = some others.entries := by
    rw [← readSelector?_labelSelector clean, same, readSelector?_labelSelector cleanToo]
  exact StringMap.ext (Option.some.inj entries)

/-! ## Labels in a request -/

/-- The labels by which a request selects. -/
def selected? (request : Http.Request) : Option (List (String × String)) :=
  (request.parameter? "labelSelector").bind readSelector?

/-- What holds of the characters of a namespace, and of all that a path may have, holds of the
characters of the path of the objects of a kind. -/
theorem forall_mem_path {allowed : Char → Prop} (kind : ObjectKind) {ns : String}
    (usual : ∀ c, Http.isPathChar c = true → allowed c) (named : ∀ c ∈ ns.toList, allowed c) :
    ∀ c ∈ (kind.path ns).toList, allowed c := by
  have fixed : (kind.path "").toList.all Http.isPathChar = true := by
    cases kind <;> decide
  intro c member
  by_cases inside : c ∈ ns.toList
  · exact named c inside
  · apply usual c
    apply List.all_eq_true.1 fixed c
    simpa [ObjectKind.path, inside] using member

/-- The characters of the value of a form's field may stand in a query, and do not end the
field. -/
theorem queryChar_of_mem_formEncoded {text : String} {c : Char}
    (member : c ∈ (Text.formEncoded text).toList) : Http.isQueryChar c = true ∧ c ≠ '&' := by
  unfold Text.formEncoded at member
  rw [String.toList_ofList] at member
  obtain ⟨byte, _, spelled⟩ := List.mem_flatMap.1 member
  exact Text.FormEncoded.queryChar_of_mem_spelling spelled

/-- The query of a request that deletes the objects that meet a condition. -/
def deleteAllQuery (selector : String) : String :=
  "&labelSelector=" ++ Text.formEncoded selector

/-- The query consists of characters that a query may have. -/
theorem queryChar_of_mem_deleteAllQuery {selector : String} {c : Char}
    (member : c ∈ (deleteAllQuery selector).toList) : Http.isQueryChar c = true := by
  unfold deleteAllQuery at member
  rw [String.toList_append] at member
  rcases List.mem_append.1 member with name | value
  · have all : "&labelSelector=".toList.all Http.isQueryChar = true := by decide
    exact List.all_eq_true.1 all c name
  · exact (queryChar_of_mem_formEncoded value).1

/-- The condition is what the query has as its parameter. -/
theorem queryFields_deleteAllQuery (selector : String) :
    Text.queryFields (deleteAllQuery selector) =
      [("labelSelector", Text.formEncoded selector)] := by
  have whole : deleteAllQuery selector = "&" ++ (String.singleton '&').intercalate
      ([("labelSelector", Text.formEncoded selector)].map Text.assignment) := by
    have name : "&labelSelector=" = "&" ++ ("labelSelector" ++ "=") := rfl
    unfold deleteAllQuery
    rw [List.map_singleton, String.intercalate_singleton, Text.assignment]
    simp only [name, String.append_assoc, -String.reduceAppend]
  rw [whole, Text.queryFields_ampersand]
  apply Text.queryFields_intercalate (List.cons_ne_nil _ _)
  · simp only [List.forall_mem_singleton]
    decide
  · simp only [List.forall_mem_singleton]
    exact fun ampersand => (queryChar_of_mem_formEncoded ampersand).2 rfl

/-- The target of a request that deletes the objects that meet a condition is the path of these
objects and the query. -/
theorem deleteAllRequest_eq (kind : ObjectKind) (ns selector : String) :
    deleteAllRequest kind ns selector =
      Http.Request.make .delete (kind.path ns ++ String.singleton '?' ++ deleteAllQuery selector)
        (some Http.json) none := by
  unfold deleteAllRequest deleteAllQuery
  have mark : "?&labelSelector=" = String.singleton '?' ++ "&labelSelector=" := rfl
  rw [mark]
  simp only [String.append_assoc]

/-- A request that deletes the objects that meet a condition has the condition as its parameter,
if the namespace leaves out the marks that end a path. -/
theorem parameter?_of_deleteAllRequest {kind : ObjectKind} {ns selector : String}
    {request : Http.Request} (plain : ∀ c ∈ ns.toList, c ≠ '?' ∧ c ≠ '#')
    (made : deleteAllRequest kind ns selector = .ok request) :
    request.parameter? "labelSelector" = some selector := by
  rw [deleteAllRequest_eq] at made
  have path : ∀ c ∈ (kind.path ns).toList, c ≠ '?' ∧ c ≠ '#' :=
    forall_mem_path kind (fun _ => Http.ne_of_isPathChar) plain
  have whole : '#' ∉
      (kind.path ns ++ String.singleton '?' ++ deleteAllQuery selector).toList := by
    intro fragment
    simp only [String.toList_append, String.toList_singleton, List.mem_append,
      List.mem_singleton] at fragment
    rcases fragment with (before | mark) | behind
    · exact (path '#' before).2 rfl
    · exact absurd mark (by decide)
    · exact absurd (queryChar_of_mem_deleteAllQuery behind) (by decide)
  have target := Http.Request.target_of_make whole made
  have split : Text.splitAt? '?' request.target = some (kind.path ns, deleteAllQuery selector) :=
    Text.splitAt?_eq_some_iff.2 ⟨fun mark => (path '?' mark).1 rfl, target⟩
  unfold Http.Request.parameter?
  simp only [split, queryFields_deleteAllQuery, Option.bind_eq_bind, Option.bind_some]
  exact Text.formDecoded?_formEncoded selector

/-- A request that deletes the objects that meet a condition can be made if the namespace consists
of characters that a path may have. -/
theorem deleteAllRequest_ok (kind : ObjectKind) {ns : String} (selector : String)
    (plain : ∀ c ∈ ns.toList, Http.isPathChar c = true) :
    ∃ request, deleteAllRequest kind ns selector = .ok request := by
  have path : ∀ c ∈ (kind.path ns).toList, Http.isPathChar c = true :=
    forall_mem_path kind (fun _ usual => usual) plain
  have target : (kind.path ns ++ String.singleton '?' ++ deleteAllQuery selector).toList =
      (kind.path ns).toList ++ '?' :: (deleteAllQuery selector).toList := by
    simp
  rw [deleteAllRequest_eq]
  unfold Http.Request.make
  rw [target, Http.target?_of_forall path fun c => queryChar_of_mem_deleteAllQuery]
  exact ⟨_, rfl⟩

/-- Labels that leave out the marks that separate them are read back, in the order of their keys,
from the condition that asks for them, so different labels make different conditions. To delete the
objects that carry all of them takes the exchange of a request with a condition from which just
these labels are read, whatever the namespace is. What goes out to the cluster selects by just
these labels, unless the namespace has a mark that ends a path, and something goes out if the
namespace may stand in a path. -/
theorem labels_selected {labels : StringMap String} (clean : Separable labels) :
    readSelector? (labelSelector labels) = some labels.entries ∧
    (∀ others, Separable others → labelSelector labels = labelSelector others →
      labels = others) ∧
    ∀ kind ns history result, (deleteAll kind ns labels).Ends history result →
      (∃ selector answer, readSelector? selector = some labels.entries ∧
        history = exchanged (deleteAllRequest kind ns selector) answer) ∧
      ((∀ c ∈ ns.toList, c ≠ '?' ∧ c ≠ '#') → ∀ request ∈ sent history,
        request.method = .delete ∧ selected? request = some labels.entries) ∧
      ((∀ c ∈ ns.toList, Http.isPathChar c = true) → (sent history).length = 1) := by
  have read := readSelector?_labelSelector clean
  refine ⟨read, fun others cleanToo => labelSelector_injOn clean cleanToo, ?_⟩
  intro kind ns history result ends
  obtain ⟨answer, rfl, _⟩ := ends_exchange_iff.1 ends
  refine ⟨⟨labelSelector labels, answer, read, rfl⟩, ?_, ?_⟩
  · intro plain request member
    rw [sent_exchanged] at member
    cases made : deleteAllRequest kind ns (labelSelector labels) with
    | error failure =>
      rw [made] at member
      exact absurd member List.not_mem_nil
    | ok only =>
      rw [made] at member
      obtain rfl : request = only := List.mem_singleton.1 member
      have found := parameter?_of_deleteAllRequest plain made
      refine ⟨method_of_make made, ?_⟩
      unfold selected?
      rw [found, Option.bind_some, read]
  · intro plain
    obtain ⟨request, made⟩ := deleteAllRequest_ok kind (labelSelector labels) plain
    rw [sent_exchanged, made]
    rfl

/-- Labels of which one has no value, and the value of the other one has an equals sign. -/
def equations : StringMap String := .ofList [("equation", "1=2"), ("empty", "")]

/-- Both labels are read back from the condition, and from the request that goes out. -/
theorem labels_selected_equations :
    labelSelector equations = "empty=,equation=1=2" ∧
      readSelector? "empty=,equation=1=2" = some [("empty", ""), ("equation", "1=2")] ∧
      ∃ request, sent ((deleteAll .pod "ci" equations).trace Network.handler
          { forever := { response := { status := 200, body := "" } } }) = [request] ∧
        selected? request = some [("empty", ""), ("equation", "1=2")] := by
  have entries : equations.entries = [("empty", ""), ("equation", "1=2")] := by decide
  have text : labelSelector equations = "empty=,equation=1=2" := by
    unfold labelSelector
    rw [entries]
    rfl
  have clean : Separable equations := by
    constructor <;> rw [entries] <;> decide
  have ends := Program.ends_run Network.handler (deleteAll .pod "ci" equations)
    { forever := { response := { status := 200, body := "" } } }
  have plain : ∀ c ∈ "ci".toList, Http.isPathChar c = true := List.all_eq_true.1 (by decide)
  have unended : ∀ c ∈ "ci".toList, c ≠ '?' ∧ c ≠ '#' :=
    fun c member => Http.ne_of_isPathChar (plain c member)
  obtain ⟨read, _, chosen⟩ := labels_selected clean
  obtain ⟨_, selects, goes⟩ := chosen _ _ _ _ ends
  obtain ⟨request, only⟩ := List.length_eq_one_iff.1 (goes plain)
  have selected := (selects unended request (by rw [only]; exact List.mem_singleton_self _)).2
  rw [text, entries] at read
  rw [entries] at selected
  exact ⟨text, read, request, only, selected⟩

end Client

end StagedTest
