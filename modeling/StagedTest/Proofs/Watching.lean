import StagedTest.Client.Watch
import StagedTest.Network
import StagedTest.Proofs.Exchanges

/-!
# What ends a watch

A watch goes on as long as looks show a pod that has not ended, and the first thing that is decisive
ends it: the token is found called off, a look fails, or a look shows a pod that has ended. The main
statements say so of every history that a watch can have, and tell which pod is handed over to be
written down: the one that was seen last, unless the watch ends with a look that fails.
-/
namespace StagedTest.Client

open Program

/-! ## The course of a watch -/

/-- A look that shows a pod that has not ended: its phase is another one, or it has none. -/
structure Sighting (ns name : String) where
  /-- What was answered. -/
  answer : Except CallFailure Http.Response
  /-- The pod as it was seen. -/
  pod : Pod
  /-- The look shows the pod. -/
  shown : podShown ns name answer = .ok pod
  /-- The pod has not succeeded. -/
  notSucceeded : pod.phase? ≠ some "Succeeded"
  /-- The pod has not failed. -/
  notFailed : pod.phase? ≠ some "Failed"

/-- What ends a watch. -/
inductive Decision (ns name : String)
  /-- The token is found called off before the next look. -/
  | calledOff
  /-- The next look fails. -/
  | unobservable (answer : Except CallFailure Http.Response) (error : ClientError)
    (shown : podShown ns name answer = .error error)
  /-- The next look shows a pod that has succeeded. -/
  | succeeded (answer : Except CallFailure Http.Response) (pod : Pod)
    (shown : podShown ns name answer = .ok pod) (phase : pod.phase? = some "Succeeded")
  /-- The next look shows a pod that has failed. -/
  | failed (answer : Except CallFailure Http.Response) (pod : Pod)
    (shown : podShown ns name answer = .ok pod) (phase : pod.phase? = some "Failed")

/-- What a sighting takes: the token is found in order, the pod is looked at, and a pause follows
that the token may cut short. -/
def Sighting.history {ns name : String} (token : Token) (sighting : Sighting ns name) :
    History Transport :=
  ⟨TransportCall.isCancelled token, false⟩ ::
    (exchanged (podRequest ns name) sighting.answer ++
      [⟨TransportCall.pauseUnlessCancelled token 2000, ()⟩])

namespace Decision

variable {ns name : String}

/-- What a decision takes: the token is looked at, and the pod unless the token is called off. -/
def history (token : Token) : Decision ns name → History Transport
  | .calledOff => [⟨TransportCall.isCancelled token, true⟩]
  | .unobservable answer .. | .succeeded answer .. | .failed answer .. =>
    ⟨TransportCall.isCancelled token, false⟩ :: exchanged (podRequest ns name) answer

/-- How many looks a decision takes. -/
def looks : Decision ns name → Nat
  | .calledOff => 0
  | .unobservable .. | .succeeded .. | .failed .. => 1

/-- How a wait ends with a decision, when a pod was seen last before it. -/
def result (last : Option Pod) : Decision ns name → Except WaitError Pod
  | .calledOff => .error (.cancelled last)
  | .unobservable _ error _ => .error (.unobservable error)
  | .succeeded _ pod .. => .ok pod
  | .failed _ pod .. => .error (.podFailed pod pod.failureMessage)

/-- The pods that are handed over to be written down with a decision. -/
def seen (last : Option Pod) : Decision ns name → List Pod
  | .calledOff => last.toList
  | .unobservable .. => []
  | .succeeded _ pod .. | .failed _ pod .. => [pod]

/-- What comes of a watch with a decision. -/
def watch (last : Option Pod) (decision : Decision ns name) : Watch :=
  { seen := decision.seen last, result := decision.result last }

end Decision

variable {ns name : String} {token : Token} {looks : Nat} {last : Option Pod}
  {history : History Transport} {outcome : Watch}

/-! ## One look more -/

/-- What a watch does about a look: it ends, or it goes on after a pause. -/
def afterLook (token : Token) (ns name : String) (looks : Nat) :
    Except ClientError Pod → Program Transport Watch
  | .error error => .done { seen := [], result := .error (.unobservable error) }
  | .ok pod =>
    match ended? pod with
    | some result => .done result
    | none =>
      (Transport.pauseUnlessCancelled token 2000).bind fun _ =>
        watch token ns name looks (some pod)

/-- A look that fails ends the watch, and nothing is handed over. -/
theorem afterLook_error {error : ClientError} :
    afterLook token ns name looks (.error error) =
      .done { seen := [], result := .error (.unobservable error) } := rfl

/-- A pod that has succeeded ends the watch well. -/
theorem afterLook_of_succeeded {pod : Pod} (phase : pod.phase? = some "Succeeded") :
    afterLook token ns name looks (.ok pod) = .done { seen := [pod], result := .ok pod } := by
  have ended : ended? pod = some { seen := [pod], result := .ok pod } := by
    simp [ended?, Pod.isSucceeded, PodStatus.succeeded, phase]
  simp only [afterLook, ended]

/-- A pod that has failed ends the watch with a report of the failure. -/
theorem afterLook_of_failed {pod : Pod} (phase : pod.phase? = some "Failed") :
    afterLook token ns name looks (.ok pod) =
      .done { seen := [pod], result := .error (.podFailed pod pod.failureMessage) } := by
  have ended : ended? pod =
      some { seen := [pod], result := .error (.podFailed pod pod.failureMessage) } := by
    simp [ended?, Pod.isSucceeded, Pod.isFailed, PodStatus.succeeded, PodStatus.failed, phase]
  simp only [afterLook, ended]

/-- After a pod in any other phase, or in none, the watch goes on. -/
theorem afterLook_of_ongoing {pod : Pod} (notSucceeded : pod.phase? ≠ some "Succeeded")
    (notFailed : pod.phase? ≠ some "Failed") :
    afterLook token ns name looks (.ok pod) =
      (Transport.pauseUnlessCancelled token 2000).bind fun _ =>
        watch token ns name looks (some pod) := by
  have ended : ended? pod = none := by
    simp [ended?, Pod.isSucceeded, Pod.isFailed, PodStatus.succeeded, PodStatus.failed,
      notSucceeded, notFailed]
  simp only [afterLook, ended]

/-- With a look to go, a watch asks for its token, and looks unless the token is called off. -/
theorem watch_succ :
    watch token ns name (looks + 1) last = (Transport.isCancelled token).bind fun cancelled =>
      if cancelled then .done (calledOff last)
      else (readPod ns name).bind (afterLook token ns name looks) := by
  rw [watch]
  rfl

/-- A watch with a look to go finds its token called off and ends, or it finds it in order and does
something about what a look shows. -/
theorem ends_watch_succ_iff :
    (watch token ns name (looks + 1) last).Ends history outcome ↔
      (history = [⟨TransportCall.isCancelled token, true⟩] ∧ outcome = calledOff last) ∨
      ∃ answer rest,
        history = ⟨TransportCall.isCancelled token, false⟩ ::
          (exchanged (podRequest ns name) answer ++ rest) ∧
        (afterLook token ns name looks (podShown ns name answer)).Ends rest outcome := by
  rw [watch_succ, ends_isCancelled_bind_iff]
  constructor
  · rintro ⟨cancelled, rest, rfl, goesOn⟩
    cases cancelled with
    | true =>
      rw [if_pos rfl] at goesOn
      obtain ⟨rfl, rfl⟩ := ends_done_iff.1 goesOn
      exact .inl ⟨rfl, rfl⟩
    | false =>
      rw [if_neg Bool.false_ne_true] at goesOn
      obtain ⟨answer, rest, rfl, judged⟩ := ends_readPod_bind_iff.1 goesOn
      exact .inr ⟨answer, rest, rfl, judged⟩
  · rintro (⟨rfl, rfl⟩ | ⟨answer, rest, rfl, judged⟩)
    · exact ⟨true, [], rfl, .done _⟩
    · refine ⟨false, _, rfl, ?_⟩
      rw [if_neg Bool.false_ne_true]
      exact ends_readPod_bind_iff.2 ⟨answer, rest, rfl, judged⟩

/-- A decision ends a watch that has a look to go. -/
theorem ends_watch_of_decision (decision : Decision ns name) :
    (watch token ns name (looks + 1) last).Ends (decision.history token)
      (decision.watch last) := by
  refine ends_watch_succ_iff.2 ?_
  cases decision with
  | calledOff => exact .inl ⟨rfl, rfl⟩
  | unobservable answer error shown =>
    refine .inr ⟨answer, [], ?_, ?_⟩
    · rw [List.append_nil]
      rfl
    · rw [shown]
      exact .done _
  | succeeded answer pod shown phase =>
    refine .inr ⟨answer, [], ?_, ?_⟩
    · rw [List.append_nil]
      rfl
    · rw [shown, afterLook_of_succeeded phase]
      exact .done _
  | failed answer pod shown phase =>
    refine .inr ⟨answer, [], ?_, ?_⟩
    · rw [List.append_nil]
      rfl
    · rw [shown, afterLook_of_failed phase]
      exact .done _

/-- After a sighting a watch goes on. -/
theorem ends_watch_of_sighting (sighting : Sighting ns name)
    (later : (watch token ns name looks (some sighting.pod)).Ends history outcome) :
    (watch token ns name (looks + 1) last).Ends (sighting.history token ++ history) outcome := by
  refine ends_watch_succ_iff.2 (.inr ⟨sighting.answer,
    ⟨TransportCall.pauseUnlessCancelled token 2000, ()⟩ :: history, ?_, ?_⟩)
  · simp [Sighting.history]
  · rw [sighting.shown, afterLook_of_ongoing sighting.notSucceeded sighting.notFailed]
    exact ends_pauseUnlessCancelled_bind_iff.2 ⟨history, rfl, later⟩

/-- A watch that has a look to go is decided at once, or it goes on after a sighting. -/
theorem decision_or_sighting (ends : (watch token ns name (looks + 1) last).Ends history outcome) :
    (∃ decision : Decision ns name,
      history = decision.history token ∧ outcome = decision.watch last) ∨
    ∃ (sighting : Sighting ns name) (rest : History Transport),
      history = sighting.history token ++ rest ∧
        (watch token ns name looks (some sighting.pod)).Ends rest outcome := by
  rcases ends_watch_succ_iff.1 ends with ⟨rfl, rfl⟩ | ⟨answer, rest, rfl, judged⟩
  · exact .inl ⟨.calledOff, rfl, rfl⟩
  · cases shown : podShown ns name answer with
    | error error =>
      rw [shown, afterLook_error] at judged
      obtain ⟨rfl, rfl⟩ := ends_done_iff.1 judged
      rw [List.append_nil]
      exact .inl ⟨.unobservable answer error shown, rfl, rfl⟩
    | ok pod =>
      rw [shown] at judged
      by_cases well : pod.phase? = some "Succeeded"
      · rw [afterLook_of_succeeded well] at judged
        obtain ⟨rfl, rfl⟩ := ends_done_iff.1 judged
        rw [List.append_nil]
        exact .inl ⟨.succeeded answer pod shown well, rfl, rfl⟩
      by_cases badly : pod.phase? = some "Failed"
      · rw [afterLook_of_failed badly] at judged
        obtain ⟨rfl, rfl⟩ := ends_done_iff.1 judged
        rw [List.append_nil]
        exact .inl ⟨.failed answer pod shown badly, rfl, rfl⟩
      rw [afterLook_of_ongoing well badly] at judged
      obtain ⟨rest, rfl, later⟩ := ends_pauseUnlessCancelled_bind_iff.1 judged
      refine .inr ⟨⟨answer, pod, shown, well, badly⟩, rest, ?_, later⟩
      simp [Sighting.history]

/-! ## Whole watches -/

/-- A watch is a loop of sightings that remembers the pod as it was seen last. -/
theorem isLoop_watch (token : Token) (ns name : String) :
    IsLoop (watch token ns name) (Sighting.history token)
      (fun _ (sighting : Sighting ns name) => some sighting.pod)
      (fun decision : Decision ns name => decision.history token)
      (fun last decision => decision.watch last) calledOff where
  zero _ := rfl
  succ looks last history outcome := by
    constructor
    · exact decision_or_sighting
    · rintro (⟨decision, rfl, rfl⟩ | ⟨sighting, rest, rfl, later⟩)
      · exact ends_watch_of_decision decision
      · exact ends_watch_of_sighting sighting later

/-- What was seen last is the last sighting. -/
theorem foldl_seen (sightings : List (Sighting ns name)) :
    sightings.foldl (fun _ sighting => some sighting.pod) none =
      sightings.getLast?.map (·.pod) := by
  rcases List.eq_nil_or_concat sightings with rfl | ⟨earlier, last, rfl⟩
  · rfl
  · simp

/-- A watch uses all its looks for sightings, or it is decided after fewer of them. -/
theorem ends_watch_iff :
    (watch token ns name looks none).Ends history outcome ↔
      ∃ sightings : List (Sighting ns name),
        (sightings.length = looks ∧ history = sightings.flatMap (Sighting.history token) ∧
          outcome = calledOff (sightings.getLast?.map (·.pod))) ∨
        ∃ decision : Decision ns name, sightings.length < looks ∧
          history = sightings.flatMap (Sighting.history token) ++ decision.history token ∧
          outcome = decision.watch (sightings.getLast?.map (·.pod)) := by
  rw [(isLoop_watch token ns name).ends_iff looks none]
  simp only [foldl_seen]

/-- The first thing that is decisive ends a wait, after any number of sightings that leaves it a
look to go, and it alone says what comes of the wait. -/
theorem ends_awaitPod_iff (sightings : List (Sighting ns name)) (decision : Decision ns name)
    (fewer : sightings.length < patience) :
    (awaitPod token ns name).Ends
        (sightings.flatMap (Sighting.history token) ++ decision.history token) outcome ↔
      outcome = decision.watch (sightings.getLast?.map (·.pod)) := by
  have ends : (awaitPod token ns name).Ends
      (sightings.flatMap (Sighting.history token) ++ decision.history token)
      (decision.watch (sightings.getLast?.map (·.pod))) :=
    ends_watch_iff.2 ⟨sightings, .inr ⟨decision, fewer, rfl, rfl⟩⟩
  constructor
  · intro again
    exact again.unique ends
  · rintro rfl
    exact ends

/-- The requests of so many looks, if they can be made. -/
def lookRequests (ns name : String) (count : Nat) : List Http.Request :=
  (List.replicate count (podRequest ns name)).flatMap (·.toOption.toList)

/-- The requests of more looks follow those of the first ones. -/
theorem lookRequests_add (ns name : String) (first more : Nat) :
    lookRequests ns name (first + more) =
      lookRequests ns name first ++ lookRequests ns name more := by
  rw [lookRequests, ← List.replicate_append_replicate, List.flatMap_append]
  rfl

/-- Each sighting takes one look. -/
theorem sent_sightings (sightings : List (Sighting ns name)) :
    sent (sightings.flatMap (Sighting.history token)) = lookRequests ns name sightings.length := by
  induction sightings with
  | nil => rfl
  | cons sighting rest ih =>
    rw [List.flatMap_cons, sent_append, ih, List.length_cons, Nat.add_comm, lookRequests_add]
    simp [Sighting.history, lookRequests]

/-- A decision takes the look that it is made by. -/
theorem sent_decision (decision : Decision ns name) :
    sent (decision.history token) = lookRequests ns name decision.looks := by
  cases decision <;> simp [Decision.history, Decision.looks, lookRequests]

/-- A watch goes through any number of sightings, and the first thing that is decisive ends it,
whatever is answered and whenever the token is called off: the token found called off, a look that
fails, a pod that has succeeded or a pod that has failed. What comes of it carries the pod that was
seen last, and nothing is looked at after it. Without a decision a watch goes on as long as it has
looks to go, of which `awaitPod` gives it a great number. -/
theorem watch_decided (token : Token) (ns name : String) :
    awaitPod token ns name = watch token ns name patience none ∧
    (∀ looks history outcome, (watch token ns name looks none).Ends history outcome ↔
      ∃ sightings : List (Sighting ns name),
        (sightings.length = looks ∧ history = sightings.flatMap (Sighting.history token) ∧
          outcome = calledOff (sightings.getLast?.map (·.pod))) ∨
        ∃ decision : Decision ns name, sightings.length < looks ∧
          history = sightings.flatMap (Sighting.history token) ++ decision.history token ∧
          outcome = decision.watch (sightings.getLast?.map (·.pod))) ∧
    ∀ (sightings : List (Sighting ns name)) (decision : Decision ns name),
      sent (sightings.flatMap (Sighting.history token) ++ decision.history token) =
        lookRequests ns name (sightings.length + decision.looks) := by
  refine ⟨rfl, fun looks history outcome => ends_watch_iff, fun sightings decision => ?_⟩
  rw [sent_append, sent_sightings, sent_decision, lookRequests_add]

/-! ## What is written down of a watch -/

/-- The pods that looks showed, in order. -/
def podsShown (ns name : String) (history : History Transport) : List Pod :=
  history.filterMap fun
    | ⟨.exchange _, answer⟩ => (podShown ns name answer).toOption
    | _ => none

/-- Pods that are shown in two parts are shown in one and then in the other. -/
theorem podsShown_append (early late : History Transport) :
    podsShown ns name (early ++ late) = podsShown ns name early ++ podsShown ns name late :=
  List.filterMap_append

/-- A look shows the pod that is read from its answer. -/
theorem podsShown_exchanged (answer : Except CallFailure Http.Response) :
    podsShown ns name (exchanged (podRequest ns name) answer) =
      (podShown ns name answer).toOption.toList := by
  cases made : podRequest ns name with
  | ok request =>
    cases shown : podShown ns name answer <;>
      simp [exchanged, podsShown, shown, Except.toOption]
  | error failure =>
    have nothing : podShown ns name answer =
        .error (.call "get" ObjectKind.pod.name name failure) := by
      rw [podShown, made]
      rfl
    rw [exchanged, nothing]
    rfl

/-- Each sighting shows its pod. -/
theorem podsShown_sightings (sightings : List (Sighting ns name)) :
    podsShown ns name (sightings.flatMap (Sighting.history token)) = sightings.map (·.pod) := by
  induction sightings with
  | nil => rfl
  | cons sighting rest ih =>
    have own : podsShown ns name (sighting.history token) = [sighting.pod] := by
      change podsShown ns name (exchanged _ _ ++ _) = _
      rw [podsShown_append, podsShown_exchanged, sighting.shown]
      rfl
    rw [List.flatMap_cons, podsShown_append, own, ih]
    rfl

/-- A decision that is made by a look shows what the look shows. -/
theorem podsShown_decision (decision : Decision ns name) :
    podsShown ns name (decision.history token) =
      match decision with
      | .calledOff | .unobservable .. => []
      | .succeeded _ pod .. | .failed _ pod .. => [pod] := by
  cases decision with
  | calledOff => rfl
  | unobservable answer error shown =>
    change podsShown ns name (exchanged _ _) = []
    rw [podsShown_exchanged, shown]
    rfl
  | succeeded answer pod shown | failed answer pod shown =>
    change podsShown ns name (exchanged _ _) = [pod]
    rw [podsShown_exchanged, shown]
    rfl

/-- A wait that is over before as many pods were shown as it has looks has been decided: only a wait
that has used up its looks counts as called off without its token having been found so. -/
theorem decided_of_ends (ends : (awaitPod token ns name).Ends history outcome)
    (fewer : (podsShown ns name history).length < patience) :
    ∃ (sightings : List (Sighting ns name)) (decision : Decision ns name),
      history = sightings.flatMap (Sighting.history token) ++ decision.history token ∧
        outcome = decision.watch (sightings.getLast?.map (·.pod)) := by
  obtain ⟨sightings, ⟨all, rfl, rfl⟩ | ⟨decision, -, rfl, rfl⟩⟩ := ends_watch_iff.1 ends
  · rw [podsShown_sightings, List.length_map, all] at fewer
    exact absurd fewer (Nat.lt_irrefl _)
  · exact ⟨sightings, decision, rfl, rfl⟩

/-- What a watch hands over is the pod that was shown last, unless the watch ends with a look that
fails: then it hands over nothing. -/
theorem seen_of_ends (ends : (watch token ns name looks none).Ends history outcome) :
    outcome.seen = match outcome.result with
      | .error (.unobservable _) => []
      | _ => (podsShown ns name history).getLast?.toList := by
  obtain ⟨sightings, ⟨_, rfl, rfl⟩ | ⟨decision, _, rfl, rfl⟩⟩ := ends_watch_iff.1 ends
  · rw [podsShown_sightings, ← List.getLast?_map]
    rfl
  · rw [podsShown_append, podsShown_sightings, podsShown_decision, ← List.getLast?_map]
    cases decision with
    | calledOff =>
      rw [List.append_nil]
      rfl
    | unobservable answer error shown => rfl
    | succeeded answer pod shown phase | failed answer pod shown phase =>
      rw [List.getLast?_concat]
      rfl

/-- However a wait ends, other than by a look that fails, the pod that was shown last has been
handed over by then, and whatever is on the record already, each of its containers that has ended is
on it afterwards. A wait that ends by a look that fails hands over nothing. -/
theorem seen_watch {σ : Type} (handler : Handler Transport σ) (state : σ) (token : Token)
    (ns name : String) (looks : Nat) :
    let history := (watch token ns name looks none).trace handler state
    let outcome := ((watch token ns name looks none).run handler state).1
    (outcome.seen = match outcome.result with
      | .error (.unobservable _) => []
      | _ => (podsShown ns name history).getLast?.toList) ∧
    ∀ record : PodRecord, ∀ pod ∈ outcome.seen, ∀ status ∈ pod.containerStatuses,
      status.termination?.isSome = true →
        (record.observeAll outcome.seen).holds status.name = true := by
  intro history outcome
  have handed := seen_of_ends (ends_run handler (watch token ns name looks none) state)
  refine ⟨handed, fun record pod member status among ended => ?_⟩
  have single : outcome.seen.length ≤ 1 := by
    rw [handed]
    split
    · exact Nat.zero_le 1
    · exact Option.length_toList_le
  obtain ⟨only, whole⟩ := List.length_eq_one_iff.1
    (Nat.le_antisymm single (List.length_pos_of_mem member))
  rw [whole] at member ⊢
  obtain rfl := List.mem_singleton.1 member
  exact record.holds_observe among ended

/-- A network that shows once a pod that runs, of which the first container has ended well, and then
fails. -/
def failing : Network where
  script := [{ response := { status := 200, body := "\x7b\"status\": \x7b\"phase\": \"Running\"," ++
    "\"initContainerStatuses\": [\x7b\"name\": \"cp-secret-wrapper\"," ++
    "\"state\": \x7b\"terminated\": \x7b\"exitCode\": 0\x7d\x7d\x7d]\x7d\x7d" } }]
  forever := { response := { status := 500, body := "" } }

/-- When a look fails after a look has shown that a container has ended, the end of the container is
not written down. -/
theorem not_recorded_failing :
    let wait := awaitPod .caller "ci" "e2e-unit"
    ((podsShown "ci" "e2e-unit" (wait.trace Network.handler failing)).getLast?.map fun pod =>
        (pod.containerStatuses.filter (·.termination?.isSome)).map (·.name)) =
      some ["cp-secret-wrapper"] ∧
    (wait.run Network.handler failing).1.record.holds "cp-secret-wrapper" = false := by
  decide +kernel

end StagedTest.Client
