import Mathlib.Logic.Relation
import StagedTest.Proofs.Deletion

/-!
# Which pod a restart leaves

To create a pod in place of a left-over one takes a creation, and only where that is refused because
the pod is there already, a deletion, a wait and a second creation. The first part says so of every
history that a restart can have. The second one sets the restart on a store in which a name is free
or taken by one pod, where deletions take effect whenever they like and where others create and
delete as well: a restart that ends well has stored a pod of its own.
-/
namespace StagedTest.Client

open Program

/-! ## The course of a restart -/

variable {pod : Pod} {history : History Transport} {result : Except ClientError Object}

/-- The namespace of a pod that is created. -/
def home (pod : Pod) : String := pod.metadata.ns.getD ""

/-- The request that creates a pod. -/
def creation (pod : Pod) : Except CallFailure Http.Request := createRequest (home pod) (.pod pod)

/-- The request that deletes a pod. -/
def deletion (pod : Pod) : Except CallFailure Http.Request :=
  deleteRequest .pod (home pod) pod.displayName

/-- What comes of the creation of a pod. -/
def created (pod : Pod) (answer : Except CallFailure Http.Response) : Except ClientError Object :=
  receive "create" ObjectKind.pod.name pod.displayName (Object.decode .pod)
    (reply (creation pod) answer)

/-- What comes of the deletion of a pod. -/
def deleted (pod : Pod) (answer : Except CallFailure Http.Response) : Except ClientError Unit :=
  receive "delete" ObjectKind.pod.name pod.displayName (decodeDeleted (decodeObject .pod))
    (reply (deletion pod) answer)

/-- A creation ends with what comes of it. -/
theorem ends_create_iff :
    (create (home pod) (.pod pod)).Ends history result ↔
      ∃ answer, history = exchanged (creation pod) answer ∧ result = created pod answer :=
  ends_exchange_iff

/-- A deletion ends with what comes of it. -/
theorem ends_delete_iff {result : Except ClientError Unit} :
    (delete .pod (home pod) pod.displayName).Ends history result ↔
      ∃ answer, history = exchanged (deletion pod) answer ∧ result = deleted pod answer :=
  ends_exchange_iff

/-- The histories of restarts that find the pod there already and get past its deletion: the
creation is refused for that, and the deletion goes well or finds nothing to delete. -/
inductive Clears (pod : Pod) : History Transport → Prop
  /-- Both in this order. -/
  | intro (first second : Except CallFailure Http.Response) (cause : ClientError)
    (refused : created pod first = .error cause) (taken : cause.SaysTaken)
    (harmless : ∀ failure, deleted pod second = .error failure → failure.SaysMissing) :
    Clears pod (exchanged (creation pod) first ++ exchanged (deletion pod) second)

/-- The histories that a restart can have, with what comes of them. -/
inductive Restarts (pod : Pod) : History Transport → Except ClientError Object → Prop
  /-- The first creation goes well, or fails otherwise than because the pod is there already. -/
  | unchanged (answer : Except CallFailure Http.Response)
    (other : ∀ cause, created pod answer = .error cause → ¬cause.SaysTaken) :
    Restarts pod (exchanged (creation pod) answer) (created pod answer)
  /-- The pod is there already, and its deletion fails otherwise than because there is none. -/
  | undeleted (first second : Except CallFailure Http.Response) (cause failure : ClientError)
    (refused : created pod first = .error cause) (taken : cause.SaysTaken)
    (failed : deleted pod second = .error failure) (other : ¬failure.SaysMissing) :
    Restarts pod (exchanged (creation pod) first ++ exchanged (deletion pod) second)
      (.error failure)
  /-- The deleted pod does not go away in time. -/
  | stuck (cleared waited : History Transport) (clears : Clears pod cleared)
    (failure : ClientError) (awaits : Awaits (home pod) pod.displayName waited (.error failure)) :
    Restarts pod (cleared ++ waited) (.error failure)
  /-- The deleted pod has gone away, and the pod is created again. -/
  | again (cleared waited : History Transport) (clears : Clears pod cleared)
    (awaits : Awaits (home pod) pod.displayName waited (.ok ()))
    (answer : Except CallFailure Http.Response) :
    Restarts pod (cleared ++ waited ++ exchanged (creation pod) answer) (created pod answer)

/-! ## One answer more -/

/-- What a restart does once the pod has been deleted. -/
def afterDeletion (pod : Pod) : Program Transport (Except ClientError Object) :=
  (awaitDeletion (home pod) pod.displayName).bind fun
    | .error error => .done (.error error)
    | .ok () => create (home pod) (.pod pod)

/-- What a restart does about the result of its deletion. -/
def onDeleted (pod : Pod) (result : Except ClientError Unit) :
    Program Transport (Except ClientError Object) :=
  match ClientError.tolerate .notFound result with
  | .error error => .done (.error error)
  | .ok _ => afterDeletion pod

/-- What a restart does about the result of its first creation. -/
def onCreated (pod : Pod) :
    Except ClientError Object → Program Transport (Except ClientError Object)
  | .ok created => .done (.ok created)
  | .error error =>
    if error.kind = .alreadyExists then
      (delete .pod (home pod) pod.displayName).bind (onDeleted pod)
    else .done (.error error)

/-- A restart begins with a creation. -/
theorem createOrRestart_eq :
    createOrRestart pod = (create (home pod) (.pod pod)).bind (onCreated pod) := by
  rw [createOrRestart]
  rfl

/-- A pod that is there already is deleted. -/
theorem onCreated_of_taken {cause : ClientError} (taken : cause.SaysTaken) :
    onCreated pod (.error cause) =
      (delete .pod (home pod) pod.displayName).bind (onDeleted pod) :=
  if_pos (cause.kind_eq_alreadyExists_iff.2 taken)

/-- With any other result of its first creation a restart is done. -/
theorem onCreated_of_not_taken {first : Except ClientError Object}
    (other : ∀ cause, first = .error cause → ¬cause.SaysTaken) :
    onCreated pod first = .done first := by
  cases first with
  | ok object => rfl
  | error cause =>
    exact if_neg fun kind => other cause rfl (cause.kind_eq_alreadyExists_iff.1 kind)

/-- A deletion that goes well, or finds nothing to delete, is waited for. -/
theorem onDeleted_of_harmless {result : Except ClientError Unit}
    (harmless : ∀ failure, result = .error failure → failure.SaysMissing) :
    onDeleted pod result = afterDeletion pod := by
  cases result with
  | ok done => rfl
  | error failure =>
    have kind : failure.kind = .notFound := failure.kind_eq_notFound_iff.2 (harmless failure rfl)
    rw [onDeleted, ClientError.tolerate, if_pos kind]

/-- With a deletion that fails otherwise a restart is done. -/
theorem onDeleted_of_not_missing {failure : ClientError} (other : ¬failure.SaysMissing) :
    onDeleted pod (.error failure) = .done (.error failure) := by
  have kind : failure.kind ≠ .notFound := fun same => other (failure.kind_eq_notFound_iff.1 same)
  rw [onDeleted, ClientError.tolerate, if_neg kind]

/-! ## Whole restarts -/

/-- Once the pod has been deleted a restart waits, and creates again only if the pod has gone
away. -/
theorem ends_afterDeletion_iff :
    (afterDeletion pod).Ends history result ↔
      (∃ failure, Awaits (home pod) pod.displayName history (.error failure) ∧
        result = .error failure) ∨
      ∃ waited answer, history = waited ++ exchanged (creation pod) answer ∧
        Awaits (home pod) pod.displayName waited (.ok ()) ∧ result = created pod answer := by
  simp only [afterDeletion, ends_bind_iff, ends_awaitDeletion_iff]
  constructor
  · rintro ⟨waited, rest, gone, rfl, awaits, later⟩
    cases gone with
    | error failure =>
      obtain ⟨rfl, rfl⟩ := ends_done_iff.1 later
      rw [List.append_nil]
      exact .inl ⟨failure, awaits, rfl⟩
    | ok done =>
      obtain ⟨answer, rfl, rfl⟩ := ends_create_iff.1 later
      exact .inr ⟨waited, answer, rfl, awaits, rfl⟩
  · rintro (⟨failure, awaits, rfl⟩ | ⟨waited, answer, rfl, awaits, rfl⟩)
    · exact ⟨history, [], .error failure, (List.append_nil _).symm, awaits, .done _⟩
    · exact ⟨waited, _, .ok (), rfl, awaits, ends_create_iff.2 ⟨answer, rfl, rfl⟩⟩

/-- What a restart does about a pod that is there already. -/
theorem ends_replacement_iff :
    ((delete .pod (home pod) pod.displayName).bind (onDeleted pod)).Ends history result ↔
      (∃ second failure, deleted pod second = .error failure ∧ ¬failure.SaysMissing ∧
        history = exchanged (deletion pod) second ∧ result = .error failure) ∨
      ∃ second rest, (∀ failure, deleted pod second = .error failure → failure.SaysMissing) ∧
        history = exchanged (deletion pod) second ++ rest ∧
        (afterDeletion pod).Ends rest result := by
  simp only [ends_bind_iff, ends_delete_iff]
  constructor
  · rintro ⟨_, rest, _, rfl, ⟨second, rfl, rfl⟩, later⟩
    by_cases harmful : ∃ failure, deleted pod second = .error failure ∧ ¬failure.SaysMissing
    · obtain ⟨failure, failed, other⟩ := harmful
      rw [failed, onDeleted_of_not_missing other] at later
      obtain ⟨rfl, rfl⟩ := ends_done_iff.1 later
      exact .inl ⟨second, failure, failed, other, List.append_nil _, rfl⟩
    · have harmless (failure : ClientError) (failed : deleted pod second = .error failure) :
          failure.SaysMissing :=
        Classical.byContradiction fun other => harmful ⟨failure, failed, other⟩
      rw [onDeleted_of_harmless harmless] at later
      exact .inr ⟨second, rest, harmless, rfl, later⟩
  · rintro (⟨second, failure, failed, other, rfl, rfl⟩ | ⟨second, rest, harmless, rfl, later⟩)
    · refine ⟨_, [], _, (List.append_nil _).symm, ⟨second, rfl, rfl⟩, ?_⟩
      rw [failed, onDeleted_of_not_missing other]
      exact .done _
    · refine ⟨_, rest, _, rfl, ⟨second, rfl, rfl⟩, ?_⟩
      rw [onDeleted_of_harmless harmless]
      exact later

/-- Whatever a restart is answered, its history is one of those. -/
theorem restarts_of_ends (ends : (createOrRestart pod).Ends history result) :
    Restarts pod history result := by
  rw [createOrRestart_eq] at ends
  obtain ⟨early, late, _, rfl, begun, later⟩ := ends_bind_iff.1 ends
  obtain ⟨first, rfl, rfl⟩ := ends_create_iff.1 begun
  by_cases there : ∃ cause, created pod first = .error cause ∧ cause.SaysTaken
  · obtain ⟨cause, refused, taken⟩ := there
    rw [refused, onCreated_of_taken taken] at later
    rcases ends_replacement_iff.1 later with
      ⟨second, failure, failed, other, rfl, rfl⟩ | ⟨second, rest, harmless, rfl, waiting⟩
    · exact .undeleted first second cause failure refused taken failed other
    · have clears := Clears.intro first second cause refused taken harmless
      rw [← List.append_assoc]
      rcases ends_afterDeletion_iff.1 waiting with
        ⟨failure, awaits, rfl⟩ | ⟨waited, answer, rfl, awaits, rfl⟩
      · exact .stuck _ rest clears failure awaits
      · rw [← List.append_assoc]
        exact .again _ waited clears awaits answer
  · have other (cause : ClientError) (failed : created pod first = .error cause) :
        ¬cause.SaysTaken := fun taken => there ⟨cause, failed, taken⟩
    rw [onCreated_of_not_taken other] at later
    obtain ⟨rfl, rfl⟩ := ends_done_iff.1 later
    rw [List.append_nil]
    exact .unchanged first other

/-- A restart that finds the pod there already goes on with replacing it. -/
theorem ends_of_refused {first : Except CallFailure Http.Response} {cause : ClientError}
    {late : History Transport} (refused : created pod first = .error cause)
    (taken : cause.SaysTaken)
    (later : ((delete .pod (home pod) pod.displayName).bind (onDeleted pod)).Ends late result) :
    (createOrRestart pod).Ends (exchanged (creation pod) first ++ late) result := by
  rw [createOrRestart_eq, ends_bind_iff]
  refine ⟨_, late, _, rfl, ends_create_iff.2 ⟨first, rfl, rfl⟩, ?_⟩
  rw [refused, onCreated_of_taken taken]
  exact later

/-- A restart that gets past its deletion waits. -/
theorem Clears.ends {cleared late : History Transport} (clears : Clears pod cleared)
    (later : (afterDeletion pod).Ends late result) :
    (createOrRestart pod).Ends (cleared ++ late) result := by
  obtain ⟨first, second, cause, refused, taken, harmless⟩ := clears
  rw [List.append_assoc]
  exact ends_of_refused refused taken
    (ends_replacement_iff.2 (.inr ⟨second, late, harmless, rfl, later⟩))

/-- Each of those histories is one of the restart, when it is answered like that. -/
theorem Restarts.ends (restarts : Restarts pod history result) :
    (createOrRestart pod).Ends history result := by
  cases restarts with
  | unchanged first other =>
    rw [createOrRestart_eq, ends_bind_iff]
    refine ⟨_, [], _, (List.append_nil _).symm, ends_create_iff.2 ⟨first, rfl, rfl⟩, ?_⟩
    rw [onCreated_of_not_taken other]
    exact .done _
  | undeleted first second cause failure refused taken failed other =>
    exact ends_of_refused refused taken
      (ends_replacement_iff.2 (.inl ⟨second, failure, failed, other, rfl, rfl⟩))
  | stuck cleared waited clears failure awaits =>
    exact clears.ends (ends_afterDeletion_iff.2 (.inl ⟨failure, awaits, rfl⟩))
  | again cleared waited clears awaits answer =>
    rw [List.append_assoc]
    exact clears.ends (ends_afterDeletion_iff.2 (.inr ⟨waited, answer, rfl, awaits, rfl⟩))

/-! ## How often a restart creates and deletes -/

/-- How many requests of a kind went out. -/
def requestsFor (method : Http.Method) (history : History Transport) : Nat :=
  (sent history).countP (·.method = method)

/-- What went out in two parts went out in one or in the other. -/
@[simp] theorem requestsFor_append (method : Http.Method) (early late : History Transport) :
    requestsFor method (early ++ late) = requestsFor method early + requestsFor method late := by
  rw [requestsFor, sent_append, List.countP_append]
  rfl

/-- With an exchange at most one request goes out. -/
theorem requestsFor_exchanged_le (method : Http.Method) (request : Except CallFailure Http.Request)
    (answer : Except CallFailure Http.Response) :
    requestsFor method (exchanged request answer) ≤ 1 := by
  rw [requestsFor, sent_exchanged]
  exact Nat.le_trans List.countP_le_length Option.length_toList_le

/-- With an exchange no request of another kind goes out. -/
theorem requestsFor_exchanged_of_ne {method other : Http.Method} (differ : other ≠ method)
    {request : Except CallFailure Http.Request}
    (kind : ∀ made, request = .ok made → made.method = other)
    (answer : Except CallFailure Http.Response) :
    requestsFor method (exchanged request answer) = 0 := by
  rw [requestsFor, sent_exchanged, List.countP_eq_zero]
  intro made member
  cases request with
  | error failure => cases member
  | ok only =>
    obtain rfl := List.mem_singleton.1 member
    rw [decide_eq_true_eq, kind _ rfl]
    exact differ

/-- A creation is there to create. -/
theorem method_of_creation {request : Http.Request} (made : creation pod = .ok request) :
    request.method = .post := by
  rw [creation, createRequest] at made
  exact method_of_make made

/-- A deletion is there to delete. -/
theorem method_of_deletion {request : Http.Request} (made : deletion pod = .ok request) :
    request.method = .delete := by
  rw [deletion, deleteRequest] at made
  exact method_of_make made

/-- Nothing goes out with a wait but requests to read. -/
theorem requestsFor_awaits {ns name : String} {ended : Except ClientError Unit}
    {method : Http.Method} (awaits : Awaits ns name history ended) (other : .get ≠ method) :
    requestsFor method history = 0 := by
  rw [requestsFor, List.countP_eq_zero]
  intro request member
  rw [decide_eq_true_eq, awaits.reads request member]
  exact other

/-- With a creation no request to delete goes out. -/
theorem requestsFor_delete_creation (answer : Except CallFailure Http.Response) :
    requestsFor .delete (exchanged (creation pod) answer) = 0 :=
  requestsFor_exchanged_of_ne (by decide) (fun _ => method_of_creation) answer

/-- With a creation and a deletion one request of each kind goes out, at most. -/
theorem requestsFor_replacement_le (first second : Except CallFailure Http.Response) :
    let history := exchanged (creation pod) first ++ exchanged (deletion pod) second
    requestsFor .post history ≤ 1 ∧ requestsFor .delete history ≤ 1 := by
  have posts := requestsFor_exchanged_le .post (creation pod) first
  have deletes := requestsFor_exchanged_le .delete (deletion pod) second
  have noPost : requestsFor .post (exchanged (deletion pod) second) = 0 :=
    requestsFor_exchanged_of_ne (by decide) (fun _ => method_of_deletion) second
  simp only [requestsFor_append, requestsFor_delete_creation]
  omega

/-- Up to its wait a restart creates and deletes once, at most. -/
theorem Clears.requestsFor_le (clears : Clears pod history) :
    requestsFor .post history ≤ 1 ∧ requestsFor .delete history ≤ 1 := by
  obtain ⟨first, second, cause, refused, taken, harmless⟩ := clears
  exact requestsFor_replacement_le first second

/-- A restart creates at most twice and deletes at most once. -/
theorem Restarts.requestsFor_le (restarts : Restarts pod history result) :
    requestsFor .post history ≤ 2 ∧ requestsFor .delete history ≤ 1 := by
  have posts := requestsFor_exchanged_le .post (creation pod)
  have noPost {ended : Except ClientError Unit} {waited : History Transport}
      (awaits : Awaits (home pod) pod.displayName waited ended) :
      requestsFor .post waited = 0 := requestsFor_awaits awaits (by decide)
  have noDelete {ended : Except ClientError Unit} {waited : History Transport}
      (awaits : Awaits (home pod) pod.displayName waited ended) :
      requestsFor .delete waited = 0 := requestsFor_awaits awaits (by decide)
  cases restarts with
  | unchanged answer other =>
    have one := posts answer
    have none : requestsFor .delete (exchanged (creation pod) answer) = 0 :=
      requestsFor_delete_creation answer
    omega
  | undeleted first second cause failure refused taken failed other =>
    obtain ⟨one, other⟩ := requestsFor_replacement_le first second
    exact ⟨Nat.le_succ_of_le one, other⟩
  | stuck cleared waited clears failure awaits =>
    have before := clears.requestsFor_le
    simp only [requestsFor_append, noPost awaits, noDelete awaits]
    omega
  | again cleared waited clears awaits answer =>
    have before := clears.requestsFor_le
    have one := posts answer
    simp only [requestsFor_append, noPost awaits, noDelete awaits, requestsFor_delete_creation]
    omega

/-! ## Restarts on a store -/

/-- Who made a pod. -/
inductive Maker
  /-- The restart that is looked at. -/
  | thisOne
  /-- Somebody else. -/
  | somebodyElse
deriving DecidableEq

/-- The place in a store that belongs to one name, with the makers of all pods that have been there,
in order. A pod is told from all others by its position among them. -/
structure Shelf where
  /-- Who made the pods, in order. -/
  makers : List Maker
  /-- The pod that is there, if any. -/
  held : Option Nat
  /-- The pod that is there has been made. -/
  known : ∀ mark ∈ held, mark < makers.length

namespace Shelf

/-- A pod is made, and is the one that is there. -/
def put (shelf : Shelf) (maker : Maker) : Shelf where
  makers := shelf.makers ++ [maker]
  held := some shelf.makers.length
  known := by simp

/-- The pod that is there goes away. -/
def clear (shelf : Shelf) : Shelf where
  makers := shelf.makers
  held := none
  known := by simp

/-- A pod that is made comes last. -/
@[simp] theorem put_makers (shelf : Shelf) (maker : Maker) :
    (shelf.put maker).makers = shelf.makers ++ [maker] := rfl

/-- A pod that is made is there. -/
@[simp] theorem put_held (shelf : Shelf) (maker : Maker) :
    (shelf.put maker).held = some shelf.makers.length := rfl

/-- What may happen to a shelf at any time, without the restart making a pod. -/
inductive Step : Shelf → Shelf → Prop
  /-- A pod goes away. -/
  | gone (shelf : Shelf) : Step shelf shelf.clear
  /-- Somebody else makes a pod where there is none. -/
  | made (shelf : Shelf) (free : shelf.held = none) : Step shelf (shelf.put .somebodyElse)

/-- What happens to a shelf in any time. -/
abbrev Meanwhile : Shelf → Shelf → Prop := Relation.ReflTransGen Step

/-- In any time only others make pods, and what is there afterwards has been there before or is one
of those. -/
theorem Meanwhile.grows {early late : Shelf} (meanwhile : Meanwhile early late) :
    ∃ more, late.makers = early.makers ++ List.replicate more .somebodyElse ∧
      ∀ mark ∈ late.held, mark ∈ early.held ∨ early.makers.length ≤ mark := by
  induction meanwhile with
  | refl => exact ⟨0, (List.append_nil _).symm, fun mark member => .inl member⟩
  | tail _ step ih =>
    obtain ⟨more, makers, held⟩ := ih
    cases step with
    | gone => exact ⟨more, makers, by simp [clear]⟩
    | made free =>
      refine ⟨more + 1, ?_, ?_⟩
      · rw [List.replicate_succ', ← List.append_assoc, ← makers]
        rfl
      · rintro mark ⟨⟩
        rw [makers, List.length_append]
        exact .inr (Nat.le_add_right _ _)

/-- In any time what has been made stays made. -/
theorem Meanwhile.makers_prefix {early late : Shelf} (meanwhile : Meanwhile early late) :
    early.makers <+: late.makers := by
  obtain ⟨more, makers, -⟩ := meanwhile.grows
  rw [makers]
  exact List.prefix_append _ _

end Shelf

/-- A creation is answered with the pod that has been made. -/
def Accepted : (asked : TransportCall) → asked.Answer → Prop
  | .exchange request, answer => request.method = .post ∧
    ∃ response object, answer = .ok response ∧ response.read (Object.decode .pod) = .ok object
  | _, _ => False

/-- How calls may be answered from a store. A creation that is answered with the pod has found the
name free and has taken it. Another creation may have been done as well, because its answer may get
lost. Deletions take effect at any time, if at all, and no other call changes anything. -/
inductive Backs : Effect Transport Shelf
  /-- A creation is done. -/
  | stored {request : Http.Request} {answer : Except CallFailure Http.Response}
    {before moment after : Shelf} (creates : request.method = .post)
    (earlier : Shelf.Meanwhile before moment) (free : moment.held = none)
    (later : Shelf.Meanwhile (moment.put .thisOne) after) :
    Backs (.exchange request) answer before after
  /-- A call that is answered otherwise does nothing. -/
  | aside {asked : TransportCall} {answer : asked.Answer} {before after : Shelf}
    (other : ¬Accepted asked answer) (meanwhile : Shelf.Meanwhile before after) :
    Backs asked answer before after

/-- What has been made stays made. -/
theorem Backs.makers_prefix {asked : TransportCall} {answer : asked.Answer} {before after : Shelf}
    (backs : Backs asked answer before after) : before.makers <+: after.makers := by
  cases backs with
  | stored creates earlier free later =>
    exact earlier.makers_prefix.trans ((List.prefix_append _ _).trans later.makers_prefix)
  | aside other meanwhile => exact meanwhile.makers_prefix

/-- What it means that a restart has put a pod of its own on a shelf at some moment. -/
structure RenewedAt (before moment after : Shelf) : Prop where
  /-- All pods that there had been before have been made by then. -/
  earlier : before.makers <+: moment.makers
  /-- There is no pod at the moment. -/
  free : moment.held = none
  /-- The restart makes its pod, and only then other things happen. -/
  since : Shelf.Meanwhile (moment.put .thisOne) after
  /-- The pod that is there afterwards is that pod, or somebody else has made it later. -/
  own : ∀ mark ∈ after.held, mark = moment.makers.length ∨
    moment.makers.length < mark ∧ after.makers[mark]? = some .somebodyElse
  /-- The pod that is there afterwards is not the one that was there before. -/
  replaced : ∀ mark ∈ before.held, mark ∉ after.held

/-- A pod that the restart makes is fresh, whatever others do later. -/
theorem renewedAt_of_put {before moment after : Shelf} (earlier : before.makers <+: moment.makers)
    (free : moment.held = none) (since : Shelf.Meanwhile (moment.put .thisOne) after) :
    RenewedAt before moment after := by
  obtain ⟨more, makers, held⟩ := since.grows
  have own : ∀ mark ∈ after.held, mark = moment.makers.length ∨
      moment.makers.length < mark ∧ after.makers[mark]? = some .somebodyElse := by
    intro mark member
    rcases held mark member with same | later
    · exact .inl (Option.some.inj same).symm
    · have known : mark < after.makers.length := after.known mark member
      have beyond : moment.makers.length < mark := by
        rw [Shelf.put_makers, List.length_append] at later
        exact later
      rw [makers, List.length_append, List.length_replicate] at known
      refine .inr ⟨beyond, ?_⟩
      rw [makers, List.getElem?_append_right later, List.getElem?_replicate, if_pos (by omega)]
  refine ⟨earlier, free, since, own, fun mark there still => ?_⟩
  have old : mark < moment.makers.length :=
    Nat.lt_of_lt_of_le (before.known mark there) earlier.length_le
  have new := own mark still
  omega

/-- A restart that ends well ends with a creation that is answered with the pod. -/
theorem Restarts.accepted {object : Object} (restarts : Restarts pod history (.ok object)) :
    ∃ early request answer, history = early ++ [⟨TransportCall.exchange request, answer⟩] ∧
      Accepted (.exchange request) answer := by
  have last {answer : Except CallFailure Http.Response} (well : created pod answer = .ok object) :
      ∃ request, creation pod = .ok request ∧ Accepted (.exchange request) answer := by
    obtain ⟨response, replied, read⟩ := receive_eq_ok well
    obtain ⟨request, made, answered⟩ := reply_eq_ok replied
    exact ⟨request, made, method_of_creation made, response, object, answered, read⟩
  generalize whole : (.ok object : Except ClientError Object) = result at restarts
  cases restarts with
  | unchanged answer other =>
    obtain ⟨request, made, accepted⟩ := last whole.symm
    rw [exchanged_of_ok made]
    exact ⟨[], request, answer, rfl, accepted⟩
  | undeleted => cases whole
  | stuck => cases whole
  | again cleared waited clears awaits answer =>
    obtain ⟨request, made, accepted⟩ := last whole.symm
    rw [exchanged_of_ok made]
    exact ⟨_, request, answer, rfl, accepted⟩

/-- On a store, a restart that ends well has put a pod of its own in the place of whatever had been
there before. -/
theorem Restarts.renews {object : Object} {before after : Shelf}
    (restarts : Restarts pod history (.ok object)) (follows : Follows Backs before history after) :
    ∃ moment, RenewedAt before moment after := by
  obtain ⟨early, request, answer, rfl, accepted⟩ := restarts.accepted
  obtain ⟨middle, led, last⟩ := follows_append_iff.1 follows
  obtain ⟨ended, now, stays⟩ := follows_cons_iff.1 last
  obtain rfl := follows_nil_iff.1 stays
  have kept (event : (asked : TransportCall) × asked.Answer) (_ : event ∈ early) (now next : Shelf)
      (backs : Backs event.1 event.2 now next) (known : before.makers <+: now.makers) :
      before.makers <+: next.makers := known.trans backs.makers_prefix
  have grown : before.makers <+: middle.makers := led.invariant List.prefix_rfl kept
  -- Only a creation that has been done is answered with the pod.
  cases now with
  | stored creates earlier free later =>
    exact ⟨_, renewedAt_of_put (grown.trans earlier.makers_prefix) free later⟩
  | aside other _ => exact absurd accepted other

/-- What a restart does, whatever it is answered. Unless its first creation is refused because the
pod is there already, it ends with what comes of that. It deletes only then, and ends with a failure
to do so unless there is nothing to delete. It creates again only after a look has been answered by
saying that there is no such pod, and ends with what comes of that; if none is in time, it ends with
that. So it creates at most twice and deletes at most once, and against a store it ends well only
when it has made a pod where there was none: what is there afterwards is that pod, or what somebody
else has made since, and never what was left over. -/
theorem restart_protocol (pod : Pod) (history : History Transport)
    (result : Except ClientError Object) :
    ((createOrRestart pod).Ends history result ↔ Restarts pod history result) ∧
    ((createOrRestart pod).Ends history result →
      requestsFor .post history ≤ 2 ∧ requestsFor .delete history ≤ 1 ∧
      ∀ before after, Follows Backs before history after → ∀ object, result = .ok object →
        ∃ moment, RenewedAt before moment after) := by
  refine ⟨⟨restarts_of_ends, Restarts.ends⟩, fun ends => ?_⟩
  have restarts : Restarts pod history result := restarts_of_ends ends
  refine ⟨restarts.requestsFor_le.1, restarts.requestsFor_le.2, ?_⟩
  rintro before after follows object rfl
  exact restarts.renews follows

/-- A store with one name, in which a deleted pod lingers for some looks. -/
structure Keeper where
  /-- What there is under the name. -/
  shelf : Shelf
  /-- How many more looks show the pod. -/
  lingers : Nat

/-- Answers as the interface of such a store does. -/
def Keeper.handler : Handler Transport Keeper
  | .exchange request => fun keeper =>
    match request.method, keeper.shelf.held with
    | .post, none =>
      (.ok { status := 201, body := "\x7b\x7d" },
        { keeper with shelf := keeper.shelf.put .thisOne })
    | .post, some _ =>
      (.ok { status := 409, body := "\x7b\"status\": \"Failure\", \"reason\": " ++
        "\"AlreadyExists\", \"code\": 409\x7d" }, keeper)
    | _, _ => (.ok { status := 200, body := "\x7b\x7d" }, keeper)
  | .exchangeBefore .. => fun keeper =>
    match keeper.lingers with
    | 0 => (some (.ok { status := 404, body := "" }), { keeper with shelf := keeper.shelf.clear })
    | lingers + 1 => (some (.ok { status := 200, body := "\x7b\x7d" }), { keeper with lingers })
  | .pauseBefore .. => fun keeper => (true, keeper)
  | .pauseUnlessCancelled .. => fun keeper => ((), keeper)
  | .isCancelled _ => fun keeper => (false, keeper)
  | .now => fun keeper => ((0 : Nat), keeper)

/-- What such a store answers is backed by it. -/
theorem Keeper.backs (asked : TransportCall) (keeper : Keeper) :
    Backs asked (handler asked keeper).1 keeper.shelf (handler asked keeper).2.shelf := by
  cases asked with
  | exchange request =>
    cases method : request.method with
    | post =>
      cases held : keeper.shelf.held with
      | none =>
        simp only [handler, method, held]
        exact .stored method .refl held .refl
      | some mark =>
        simp only [handler, method, held]
        refine .aside ?_ .refl
        rintro ⟨-, _, object, ⟨⟩, read⟩
        cases read
    | get | delete =>
      simp only [handler, method]
      refine .aside ?_ .refl
      rintro ⟨creates, -⟩
      rw [method] at creates
      cases creates
  | exchangeBefore deadline request =>
    refine .aside id ?_
    cases lingers : keeper.lingers with
    | zero =>
      simp only [handler, lingers]
      exact .single (.gone _)
    | succ lingers =>
      simp only [handler, lingers]
      exact .refl
  | pauseBefore | pauseUnlessCancelled | isCancelled | now => exact .aside id .refl

/-- A store with a pod that somebody else has made, which lingers for two looks. -/
def Keeper.leftOver : Keeper where
  shelf := Shelf.put ⟨[], none, nofun⟩ .somebodyElse
  lingers := 2

/-- The restart of a pod. -/
def unitRestart : Program Transport (Except ClientError Object) :=
  createOrRestart { metadata := { name := some "e2e-unit", ns := some "ci" } }

/-- A left-over pod is replaced by one of the restart's own, after three looks. -/
theorem restart_protocol_leftOver :
    let history := unitRestart.trace Keeper.handler .leftOver
    let ended := unitRestart.run Keeper.handler .leftOver
    (unitRestart.Ends history ended.1 ∧ ended.1.toOption.isSome = true ∧
      Follows Backs Keeper.leftOver.shelf history ended.2.shelf) ∧
    requestsFor .post history = 2 ∧ requestsFor .delete history = 1 ∧
    requestsFor .get history = 3 ∧ ended.2.shelf.held = some 1 ∧
    ∃ moment, RenewedAt Keeper.leftOver.shelf moment ended.2.shelf := by
  have ends := ends_run Keeper.handler unitRestart .leftOver
  have serves (asked : TransportCall) (state : Keeper) (_ : True) :
      Backs asked (Keeper.handler asked state).1 state.shelf (Keeper.handler asked state).2.shelf ∧
        True := ⟨Keeper.backs asked state, trivial⟩
  have follows : Follows Backs Keeper.leftOver.shelf
      (unitRestart.trace Keeper.handler .leftOver)
      (unitRestart.run Keeper.handler .leftOver).2.shelf :=
    follows_run Keeper.handler Keeper.shelf serves unitRestart trivial
  have well : (unitRestart.run Keeper.handler .leftOver).1.toOption.isSome = true := by
    decide +kernel
  have counted : requestsFor .post (unitRestart.trace Keeper.handler .leftOver) = 2 ∧
      requestsFor .delete (unitRestart.trace Keeper.handler .leftOver) = 1 ∧
      requestsFor .get (unitRestart.trace Keeper.handler .leftOver) = 3 ∧
      (unitRestart.run Keeper.handler .leftOver).2.shelf.held = some 1 := by
    decide +kernel
  have ended {outcome : Except ClientError Object} (well : outcome.toOption.isSome = true) :
      ∃ object, outcome = .ok object := by
    cases outcome with
    | ok object => exact ⟨object, rfl⟩
    | error failure => cases well
  obtain ⟨posts, deletes, gets, held⟩ := counted
  obtain ⟨object, result⟩ := ended well
  exact ⟨⟨ends, well, follows⟩, posts, deletes, gets, held,
    ((restart_protocol _ _ _).2 ends).2.2 _ _ follows object result⟩

end StagedTest.Client
