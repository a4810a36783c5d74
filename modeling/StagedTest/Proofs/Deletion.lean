import StagedTest.Client.Restart
import StagedTest.Network
import StagedTest.Proofs.Exchanges
import StagedTest.Proofs.Needs

/-!
# Waits for a pod to go away

A wait for a deleted pod to go away ends well with the first look that says that there is no such
pod, and it ends badly when its time is over. No other look ends it, whatever it shows. The first
part says so of every history that a wait can have. The second one sets the wait on a clock on which
answers take no time, and says when it looks and when it ends.
-/
namespace StagedTest.Client

open Program

/-! ## The course of a wait -/

/-- A look at a pod is answered by saying that there is no such pod. -/
def Missing (ns name : String) (answer : Except CallFailure Http.Response) : Prop :=
  ∃ cause, podShown ns name answer = .error cause ∧ cause.SaysMissing

/-- What the exchange of a look up to a deadline takes, if the request can be made. -/
def exchangedBefore (deadline : Nat) (request : Except CallFailure Http.Request)
    (answer : Option (Except CallFailure Http.Response)) : History Transport :=
  match request with
  | .ok request => [⟨TransportCall.exchangeBefore deadline request, answer⟩]
  | .error _ => []

/-- Only the request goes out in its exchange. -/
@[simp] theorem sent_exchangedBefore (deadline : Nat) (request : Except CallFailure Http.Request)
    (answer : Option (Except CallFailure Http.Response)) :
    sent (exchangedBefore deadline request answer) = request.toOption.toList := by
  cases request <;> rfl

/-- A look in time that is answered by anything else than that there is no such pod. -/
structure Glance (ns name : String) where
  /-- What was answered. -/
  answer : Except CallFailure Http.Response
  /-- The answer does not say so. -/
  other : ¬Missing ns name answer

/-- What ends a wait. -/
inductive Verdict (ns name : String)
  /-- A look is answered by saying that there is no such pod. -/
  | gone (answer : Except CallFailure Http.Response) (missing : Missing ns name answer)
  /-- The deadline passes while a look is under way. -/
  | unanswered (request : Http.Request) (made : podRequest ns name = .ok request)
  /-- The deadline passes after another look. -/
  | overdue (glance : Glance ns name)

/-- What a look takes that has the wait go on: its exchange, and a pause that lasts its time. -/
def Glance.history {ns name : String} (deadline : Nat) (glance : Glance ns name) :
    History Transport :=
  exchangedBefore deadline (podRequest ns name) (some glance.answer) ++
    [⟨TransportCall.pauseBefore deadline pollInterval, true⟩]

namespace Verdict

variable {ns name : String}

/-- What the end of a wait takes. -/
def history (deadline : Nat) : Verdict ns name → History Transport
  | .gone answer _ => exchangedBefore deadline (podRequest ns name) (some answer)
  | .unanswered request _ => [⟨TransportCall.exchangeBefore deadline request, none⟩]
  | .overdue glance => exchangedBefore deadline (podRequest ns name) (some glance.answer) ++
      [⟨TransportCall.pauseBefore deadline pollInterval, false⟩]

/-- What comes of a wait. -/
def result : Verdict ns name → Except ClientError Unit
  | .gone .. => .ok ()
  | .unanswered .. | .overdue _ => .error (.deletionTimeout ObjectKind.pod.name name)

end Verdict

variable {ns name : String} {deadline looks : Nat} {request : Http.Request}
  {history : History Transport} {result : Except ClientError Unit}

/-! ## One look more -/

/-- A pod counts as gone if a look is answered by saying so. -/
theorem isGone_podShown_iff {answer : Except CallFailure Http.Response} :
    isGone (podShown ns name answer) = true ↔ Missing ns name answer := by
  rw [Missing]
  cases podShown ns name answer with
  | ok pod => simp [isGone]
  | error error => simp [isGone, error.kind_eq_notFound_iff]

/-- A look whose request can be made takes an exchange. -/
theorem lookBefore_of_ok (made : podRequest ns name = .ok request) :
    lookBefore deadline ns name = (Transport.exchangeBefore deadline request).bind fun answer =>
      .done (answer.map (podShown ns name)) := by
  have shown : podShown ns name = receive "get" ObjectKind.pod.name name Pod.codec.decode := by
    funext answer
    rw [podShown, made, reply]
  have read : readRequest (ObjectKind.pod.path ns) name = .ok request := made
  rw [lookBefore, read, shown]
  rfl

/-- Without its request a look does not say that the pod is gone. -/
theorem not_missing_of_error {failure : CallFailure} (made : podRequest ns name = .error failure)
    (answer : Except CallFailure Http.Response) : ¬Missing ns name answer := by
  obtain rfl := malformed_of_podRequest made
  rintro ⟨cause, shown, response, said, -⟩
  rw [podShown, made] at shown
  cases shown
  cases said

/-- Without its request a look leaves the pod where it is. -/
theorem isGone_of_error {failure : CallFailure} (made : podRequest ns name = .error failure)
    (answer : Except CallFailure Http.Response) : isGone (podShown ns name answer) = false :=
  Bool.eq_false_iff.2 fun gone => not_missing_of_error made answer (isGone_podShown_iff.1 gone)

/-- A look whose request cannot be made takes nothing. -/
theorem lookBefore_of_error {failure : CallFailure} (made : podRequest ns name = .error failure)
    (answer : Except CallFailure Http.Response) :
    lookBefore deadline ns name = .done (some (podShown ns name answer)) := by
  have read : readRequest (ObjectKind.pod.path ns) name = .error failure := made
  rw [lookBefore, read, podShown, made]
  rfl

/-- What a wait does about a look: it ends, or it goes on after a pause. -/
def afterGlance (deadline : Nat) (ns name : String) (looks : Nat) :
    Option (Except ClientError Pod) → Program Transport (Except ClientError Unit)
  | none => .done (.error (.deletionTimeout ObjectKind.pod.name name))
  | some seen =>
    if isGone seen then .done (.ok ())
    else
      (Transport.pauseBefore deadline pollInterval).bind fun lasted =>
        if lasted then awaitGone deadline ns name looks
        else .done (.error (.deletionTimeout ObjectKind.pod.name name))

/-- With a look to go, a wait looks and does something about it. -/
theorem awaitGone_succ :
    awaitGone deadline ns name (looks + 1) =
      (lookBefore deadline ns name).bind (afterGlance deadline ns name looks) := rfl

/-- What begins with a look goes on with what the look shows, or with nothing if the deadline passes
while the look is under way. -/
theorem ends_lookBefore_bind_iff {α : Type} {value : α}
    {next : Option (Except ClientError Pod) → Program Transport α} :
    ((lookBefore deadline ns name).bind next).Ends history value ↔
      (∃ answer rest,
        history = exchangedBefore deadline (podRequest ns name) (some answer) ++ rest ∧
        (next (some (podShown ns name answer))).Ends rest value) ∨
      ∃ request rest, podRequest ns name = .ok request ∧
        history = ⟨TransportCall.exchangeBefore deadline request, none⟩ :: rest ∧
        (next none).Ends rest value := by
  cases made : podRequest ns name with
  | error failure =>
    constructor
    · intro ends
      rw [lookBefore_of_error made (.error failure), done_bind] at ends
      exact .inl ⟨.error failure, history, rfl, ends⟩
    · rintro (⟨answer, rest, rfl, later⟩ | ⟨_, _, impossible, -⟩)
      · rw [lookBefore_of_error made answer, done_bind]
        exact later
      · cases impossible
  | ok request =>
    rw [lookBefore_of_ok made, bind_assoc, ends_exchangeBefore_bind_iff]
    constructor
    · rintro ⟨answer, rest, rfl, later⟩
      cases answer with
      | some answer => exact .inl ⟨answer, rest, rfl, later⟩
      | none => exact .inr ⟨request, rest, rfl, rfl, later⟩
    · rintro (⟨answer, rest, rfl, later⟩ | ⟨_, rest, ⟨⟩, rfl, later⟩)
      · exact ⟨some answer, rest, rfl, later⟩
      · exact ⟨none, rest, rfl, later⟩

/-! ## Whole waits -/

/-- What a wait does about a look that says that the pod is gone is to end. -/
theorem afterGlance_of_missing {answer : Except CallFailure Http.Response}
    (missing : Missing ns name answer) :
    afterGlance deadline ns name looks (some (podShown ns name answer)) = .done (.ok ()) :=
  if_pos (isGone_podShown_iff.2 missing)

/-- What a wait does about any other look is to pause. -/
theorem afterGlance_of_not_missing {answer : Except CallFailure Http.Response}
    (other : ¬Missing ns name answer) :
    afterGlance deadline ns name looks (some (podShown ns name answer)) =
      (Transport.pauseBefore deadline pollInterval).bind fun lasted =>
        if lasted then awaitGone deadline ns name looks
        else .done (.error (.deletionTimeout ObjectKind.pod.name name)) :=
  if_neg fun gone => other (isGone_podShown_iff.1 gone)

/-- With a look to go a wait ends, or it goes on after a look and a pause. -/
theorem ends_awaitGone_succ_iff :
    (awaitGone deadline ns name (looks + 1)).Ends history result ↔
      (∃ verdict : Verdict ns name,
        history = verdict.history deadline ∧ result = verdict.result) ∨
      ∃ (glance : Glance ns name) (rest : History Transport),
        history = glance.history deadline ++ rest ∧
        (awaitGone deadline ns name looks).Ends rest result := by
  rw [awaitGone_succ, ends_lookBefore_bind_iff]
  constructor
  · rintro (⟨answer, rest, rfl, later⟩ | ⟨request, rest, made, rfl, later⟩)
    · by_cases missing : Missing ns name answer
      · rw [afterGlance_of_missing missing] at later
        obtain ⟨rfl, rfl⟩ := ends_done_iff.1 later
        rw [List.append_nil]
        exact .inl ⟨.gone answer missing, rfl, rfl⟩
      · rw [afterGlance_of_not_missing missing] at later
        obtain ⟨lasted, after, rfl, paused⟩ := ends_pauseBefore_bind_iff.1 later
        cases lasted with
        | true =>
          refine .inr ⟨⟨answer, missing⟩, after, ?_, paused⟩
          rw [Glance.history, List.append_assoc]
          rfl
        | false =>
          obtain ⟨rfl, rfl⟩ := ends_done_iff.1 paused
          exact .inl ⟨.overdue ⟨answer, missing⟩, rfl, rfl⟩
    · obtain ⟨rfl, rfl⟩ := ends_done_iff.1 later
      exact .inl ⟨.unanswered request made, rfl, rfl⟩
  · rintro (⟨verdict, rfl, rfl⟩ | ⟨glance, rest, rfl, later⟩)
    · cases verdict with
      | gone answer missing =>
        refine .inl ⟨answer, [], (List.append_nil _).symm, ?_⟩
        rw [afterGlance_of_missing missing]
        exact .done _
      | unanswered request made => exact .inr ⟨request, [], made, rfl, .done _⟩
      | overdue glance =>
        refine .inl ⟨glance.answer, _, rfl, ?_⟩
        rw [afterGlance_of_not_missing glance.other]
        exact ends_pauseBefore_bind_iff.2 ⟨false, [], rfl, .done _⟩
    · refine .inl ⟨glance.answer, ⟨TransportCall.pauseBefore deadline pollInterval, true⟩ :: rest,
        ?_, ?_⟩
      · rw [Glance.history, List.append_assoc]
        rfl
      · rw [afterGlance_of_not_missing glance.other]
        exact ends_pauseBefore_bind_iff.2 ⟨true, rest, rfl, later⟩

/-- A wait is a loop of looks. -/
theorem isLoop_awaitGone (deadline : Nat) (ns name : String) :
    IsLoop (fun looks (_ : Unit) => awaitGone deadline ns name looks)
      (fun glance : Glance ns name => glance.history deadline) (fun _ _ => ())
      (fun verdict : Verdict ns name => verdict.history deadline)
      (fun _ verdict => verdict.result)
      (fun _ => .error (.deletionTimeout ObjectKind.pod.name name)) where
  zero _ := rfl
  succ _ _ _ _ := ends_awaitGone_succ_iff

/-- A wait uses all its looks, or something ends it after fewer of them. -/
theorem ends_awaitGone_iff :
    (awaitGone deadline ns name looks).Ends history result ↔
      ∃ glances : List (Glance ns name),
        (glances.length = looks ∧ history = glances.flatMap (Glance.history deadline) ∧
          result = .error (.deletionTimeout ObjectKind.pod.name name)) ∨
        ∃ verdict : Verdict ns name, glances.length < looks ∧
          history = glances.flatMap (Glance.history deadline) ++ verdict.history deadline ∧
          result = verdict.result :=
  (isLoop_awaitGone deadline ns name).ends_iff looks ()

/-- The histories that a wait can have, with what comes of them. The deadline is 300 seconds after
the wait has begun, and there are 151 looks at most. -/
inductive Awaits (ns name : String) : History Transport → Except ClientError Unit → Prop
  /-- Something ends the wait after some looks. -/
  | ended (start : Nat) (glances : List (Glance ns name)) (fewer : glances.length < 151)
    (verdict : Verdict ns name) :
    Awaits ns name (⟨TransportCall.now, start⟩ ::
      (glances.flatMap (Glance.history (start + 300000)) ++ verdict.history (start + 300000)))
      verdict.result
  /-- All looks are taken. -/
  | exhausted (start : Nat) (glances : List (Glance ns name)) (all : glances.length = 151) :
    Awaits ns name (⟨TransportCall.now, start⟩ ::
      glances.flatMap (Glance.history (start + 300000)))
      (.error (.deletionTimeout ObjectKind.pod.name name))

/-- A wait finds out the time and then looks. -/
theorem awaitDeletion_eq : awaitDeletion ns name =
    Transport.now.bind fun start => awaitGone (start + 300000) ns name 151 := rfl

/-- Those are the histories of waits. -/
theorem ends_awaitDeletion_iff :
    (awaitDeletion ns name).Ends history result ↔ Awaits ns name history result := by
  rw [awaitDeletion_eq, ends_now_bind_iff]
  constructor
  · rintro ⟨start, rest, rfl, later⟩
    obtain ⟨glances, ⟨all, rfl, rfl⟩ | ⟨verdict, fewer, rfl, rfl⟩⟩ :=
      ends_awaitGone_iff.1 later
    · exact .exhausted start glances all
    · exact .ended start glances fewer verdict
  · intro awaits
    cases awaits with
    | ended start glances fewer verdict =>
      exact ⟨start, _, rfl, ends_awaitGone_iff.2 ⟨glances, .inr ⟨verdict, fewer, rfl, rfl⟩⟩⟩
    | exhausted start glances all =>
      exact ⟨start, _, rfl, ends_awaitGone_iff.2 ⟨glances, .inl ⟨all, rfl, rfl⟩⟩⟩

/-- The request of a look is there to read. -/
theorem method_of_mem_podRequest :
    ∀ request ∈ (podRequest ns name).toOption.toList, request.method = .get := by
  cases made : podRequest ns name with
  | error failure => nofun
  | ok request => exact List.forall_mem_singleton.2 (method_of_podRequest made)

/-- Only the request of its look goes out before a wait goes on. -/
theorem Glance.sent_history (glance : Glance ns name) :
    sent (glance.history deadline) = (podRequest ns name).toOption.toList := by
  rw [Glance.history, sent_append, sent_exchangedBefore]
  exact List.append_nil _

/-- Only the request of its last look goes out with the end of a wait. -/
theorem Verdict.sent_history (verdict : Verdict ns name) :
    sent (verdict.history deadline) = (podRequest ns name).toOption.toList := by
  cases verdict with
  | gone answer missing => exact sent_exchangedBefore deadline _ _
  | unanswered request made =>
    rw [made]
    rfl
  | overdue glance =>
    rw [Verdict.history, sent_append, sent_exchangedBefore]
    exact List.append_nil _

/-- Nothing goes out with a wait but requests to read. -/
theorem Awaits.reads (awaits : Awaits ns name history result) :
    ∀ request ∈ sent history, request.method = .get := by
  have glanced (start : Nat) (glances : List (Glance ns name)) :
      ∀ request ∈ sent (glances.flatMap (Glance.history (start + 300000))),
        request.method = .get := by
    induction glances with
    | nil => nofun
    | cons glance rest ih =>
      rw [List.flatMap_cons, sent_append, glance.sent_history]
      exact List.forall_mem_append.2 ⟨method_of_mem_podRequest, ih⟩
  cases awaits with
  | ended start glances fewer verdict =>
    rw [sent_now_cons, sent_append, verdict.sent_history]
    exact List.forall_mem_append.2 ⟨glanced start glances, method_of_mem_podRequest⟩
  | exhausted start glances all => exact glanced start glances

/-! ## Waits on a clock -/

/-- A way to a cluster on a clock, with a log of the requests and their times. -/
structure Clocked where
  /-- The time. -/
  clock : Nat
  /-- The requests so far, each with the time at which it went out. -/
  log : List (Nat × Http.Request) := []

namespace Clocked

/-- An answer with other contents. -/
def withContents (contents : Except CallFailure Http.Response) :
    (asked : TransportCall) → asked.Answer → asked.Answer
  | .exchange _, _ => contents
  | .exchangeBefore .., answer => answer.map fun _ => contents
  | .pauseBefore .., lasted => lasted
  | .pauseUnlessCancelled .., answer => answer
  | .isCancelled _, cancelled => cancelled
  | .now, time => time

/-- Answers the requests from a sequence, each without delay. The clock goes as in a network. -/
def handler (answers : Nat → Except CallFailure Http.Response) : Handler Transport Clocked :=
  fun asked state =>
    let served := Network.handler asked { clock := state.clock, forever := default }
    (withContents (answers state.log.length) asked served.1,
      { clock := served.2.clock, log := state.log ++ served.2.requests.map (state.clock, ·) })

variable {answers : Nat → Except CallFailure Http.Response} {state : Clocked}

/-- Before its deadline a request is answered at once. -/
theorem handler_exchangeBefore_of_lt (early : state.clock < deadline) :
    handler answers (.exchangeBefore deadline request) state =
      (some (answers state.log.length),
        { state with log := state.log ++ [(state.clock, request)] }) := by
  have served : Network.handler (.exchangeBefore deadline request)
      { clock := state.clock, forever := default } =
      (some (.ok default), { clock := state.clock, forever := default, requests := [request] }) :=
    if_pos early
  unfold handler
  rw [served]
  rfl

/-- From its deadline on a request goes out in vain. -/
theorem handler_exchangeBefore_of_le (late : deadline ≤ state.clock) :
    handler answers (.exchangeBefore deadline request) state =
      (none, { clock := deadline, log := state.log ++ [(state.clock, request)] }) := by
  have served : Network.handler (.exchangeBefore deadline request)
      { clock := state.clock, forever := default } =
      (none, { clock := deadline, forever := default, requests := [request] }) :=
    if_neg (Nat.not_lt.2 late)
  unfold handler
  rw [served]
  rfl

/-- A pause that ends by its deadline lasts its time. -/
theorem handler_pauseBefore_of_le {duration : Nat} (early : state.clock + duration ≤ deadline) :
    handler answers (.pauseBefore deadline duration) state =
      (true, { state with clock := state.clock + duration }) := by
  have served : Network.handler (.pauseBefore deadline duration)
      { clock := state.clock, forever := default } =
      (true, { clock := state.clock + duration, forever := default }) := if_pos early
  unfold handler
  rw [served]
  exact congrArg (Prod.mk true) (congrArg (Clocked.mk _) (List.append_nil _))

/-- A pause that would last longer is cut short by its deadline. -/
theorem handler_pauseBefore_of_lt {duration : Nat} (late : deadline < state.clock + duration) :
    handler answers (.pauseBefore deadline duration) state =
      (false, { state with clock := deadline }) := by
  have served : Network.handler (.pauseBefore deadline duration)
      { clock := state.clock, forever := default } =
      (false, { clock := deadline, forever := default }) := if_neg (Nat.not_le.2 late)
  unfold handler
  rw [served]
  exact congrArg (Prod.mk false) (congrArg (Clocked.mk _) (List.append_nil _))

end Clocked

/-- The requests of looks from a time on, one every two seconds, if they can be made. -/
def timetable (ns name : String) (start count : Nat) : List (Nat × Http.Request) :=
  match podRequest ns name with
  | .ok request => (List.range count).map fun look => (start + 2000 * look, request)
  | .error _ => []

/-- With a request that can be made, one goes out for each look. -/
theorem timetable_of_ok (made : podRequest ns name = .ok request) (start count : Nat) :
    timetable ns name start count =
      (List.range count).map fun look => (start + 2000 * look, request) := by
  rw [timetable, made]

/-- Without a request nothing goes out. -/
theorem timetable_of_error {failure : CallFailure} (made : podRequest ns name = .error failure)
    (start count : Nat) : timetable ns name start count = [] := by
  rw [timetable, made]

/-- The request of one look more goes out after the others. -/
theorem timetable_succ_of_ok (made : podRequest ns name = .ok request) (start count : Nat) :
    timetable ns name start (count + 1) =
      timetable ns name start count ++ [(start + 2000 * count, request)] := by
  simp only [timetable_of_ok made, List.range_succ, List.map_append, List.map_cons, List.map_nil]

/-- At most one request goes out for each look. -/
theorem length_timetable_le (start count : Nat) :
    (timetable ns name start count).length ≤ count := by
  cases made : podRequest ns name with
  | ok request => simp [timetable_of_ok made]
  | error failure => simp [timetable_of_error made]

-- What goes out is told by these statements from here on: to open it would open the requests.
attribute [irreducible] timetable

/-- How a wait stands when it has looked so many times, and paused after each look. -/
def waited (ns name : String) (start count : Nat) : Clocked where
  clock := start + 2000 * count
  log := timetable ns name start count

section

variable {answers : Nat → Except CallFailure Http.Response} {start count : Nat}

/-- The run of a look whose request can be made is its exchange. -/
theorem run_lookBefore_of_ok {σ : Type} (made : podRequest ns name = .ok request)
    (handler : Handler Transport σ) (state : σ) :
    (lookBefore deadline ns name).run handler state =
      ((handler (.exchangeBefore deadline request) state).1.map (podShown ns name),
        (handler (.exchangeBefore deadline request) state).2) := by
  rw [lookBefore_of_ok made]
  rfl

/-- Before the deadline a look is answered from the sequence. -/
theorem run_lookBefore_of_lt (early : count < 150) :
    (lookBefore (start + 300000) ns name).run (Clocked.handler answers)
        (waited ns name start count) =
      (some (podShown ns name (answers count)),
        { clock := start + 2000 * count, log := timetable ns name start (count + 1) }) := by
  cases made : podRequest ns name with
  | error failure =>
    rw [lookBefore_of_error made (answers count), waited, timetable_of_error made,
      timetable_of_error made]
    rfl
  | ok request =>
    have before : (waited ns name start count).clock < start + 300000 := by
      simp only [waited]
      omega
    have asked : (waited ns name start count).log.length = count := by
      simp [waited, timetable_of_ok made]
    rw [run_lookBefore_of_ok made, Clocked.handler_exchangeBefore_of_lt before, asked,
      timetable_succ_of_ok made]
    rfl

/-- The look at the deadline does not say that the pod is gone. -/
theorem run_lookBefore_of_eq (answers : Nat → Except CallFailure Http.Response)
    (ns name : String) (start : Nat) :
    ∃ seen, (∀ shown ∈ seen, isGone shown = false) ∧
      (lookBefore (start + 300000) ns name).run (Clocked.handler answers)
          (waited ns name start 150) =
        (seen, { clock := start + 300000, log := timetable ns name start 151 }) := by
  cases made : podRequest ns name with
  | error failure =>
    refine ⟨some (podShown ns name (.error failure)), ?_, ?_⟩
    · rintro _ ⟨⟩
      exact isGone_of_error made _
    · rw [lookBefore_of_error made (.error failure), waited, timetable_of_error made,
        timetable_of_error made]
      rfl
  | ok request =>
    have late : start + 300000 ≤ (waited ns name start 150).clock := Nat.le_refl _
    refine ⟨none, by simp, ?_⟩
    rw [run_lookBefore_of_ok made, Clocked.handler_exchangeBefore_of_le late,
      timetable_succ_of_ok made start 150]
    rfl

/-- The first look that says that there is no such pod ends the wait well. -/
theorem run_awaitGone_of_missing (early : count < 150) (missing : Missing ns name (answers count)) :
    (awaitGone (start + 300000) ns name (looks + 1)).run (Clocked.handler answers)
        (waited ns name start count) =
      (.ok (), { clock := start + 2000 * count, log := timetable ns name start (count + 1) }) := by
  rw [awaitGone_succ, run_bind, run_lookBefore_of_lt early, afterGlance_of_missing missing]
  rfl

/-- The run of a single pause is its call. -/
theorem run_pauseBefore {σ : Type} {duration : Nat} (handler : Handler Transport σ) (state : σ) :
    (Transport.pauseBefore deadline duration).run handler state =
      handler (.pauseBefore deadline duration) state := rfl

/-- After any other look before the deadline the wait goes on in two seconds. -/
theorem run_awaitGone_of_not_missing (early : count < 150)
    (other : ¬Missing ns name (answers count)) :
    (awaitGone (start + 300000) ns name (looks + 1)).run (Clocked.handler answers)
        (waited ns name start count) =
      (awaitGone (start + 300000) ns name looks).run (Clocked.handler answers)
        (waited ns name start (count + 1)) := by
  have fits : start + 2000 * count + pollInterval ≤ start + 300000 := by
    rw [pollInterval]
    omega
  have next : waited ns name start (count + 1) =
      { clock := start + 2000 * count + pollInterval,
        log := timetable ns name start (count + 1) } := by
    rw [waited, pollInterval, Nat.mul_succ, Nat.add_assoc]
  rw [awaitGone_succ, run_bind, run_lookBefore_of_lt early,
    afterGlance_of_not_missing other, run_bind, run_pauseBefore,
    Clocked.handler_pauseBefore_of_le fits, if_pos rfl, next]

/-- A wait begins by finding out the time. -/
theorem run_awaitDeletion :
    (awaitDeletion ns name).run (Clocked.handler answers) { clock := start } =
      (awaitGone (start + 300000) ns name 151).run (Clocked.handler answers)
        (waited ns name start 0) := by
  have timed : Transport.now.run (Clocked.handler answers) { clock := start } =
      (start, { clock := start }) := rfl
  have fresh : waited ns name start 0 = { clock := start } := by
    cases made : podRequest ns name with
    | ok request => simp [waited, timetable_of_ok made]
    | error failure => simp [waited, timetable_of_error made]
  rw [fresh, awaitDeletion_eq, run_bind, timed]

/-- With the look at the deadline the wait ends badly. -/
theorem run_awaitGone_of_eq :
    (awaitGone (start + 300000) ns name (looks + 1)).run (Clocked.handler answers)
        (waited ns name start 150) =
      (.error (.deletionTimeout ObjectKind.pod.name name),
        { clock := start + 300000, log := timetable ns name start 151 }) := by
  obtain ⟨seen, notGone, looked⟩ := run_lookBefore_of_eq answers ns name start
  rw [awaitGone_succ, run_bind, looked]
  cases seen with
  | none => rfl
  | some seen =>
    have late : start + 300000 < start + 300000 + pollInterval := by
      rw [pollInterval]
      omega
    rw [afterGlance, notGone seen rfl, if_neg Bool.false_ne_true, run_bind, run_pauseBefore,
      Clocked.handler_pauseBefore_of_lt late, if_neg Bool.false_ne_true]
    rfl

end

/-- What a wait comes to from its looks on that it has not taken yet: the first of them that says
that there is no such pod ends it well, and without one it ends badly at the deadline. -/
theorem run_awaitGone (answers : Nat → Except CallFailure Http.Response) (ns name : String)
    (start : Nat) {count : Nat} (total : count + looks = 150) :
    let ended := (awaitGone (start + 300000) ns name (looks + 1)).run (Clocked.handler answers)
      (waited ns name start count)
    (∃ last, count ≤ last ∧ last < 150 ∧ Missing ns name (answers last) ∧
      (∀ look, count ≤ look → look < last → ¬Missing ns name (answers look)) ∧
      ended = (.ok (),
        { clock := start + 2000 * last, log := timetable ns name start (last + 1) })) ∨
    ((∀ look, count ≤ look → look < 150 → ¬Missing ns name (answers look)) ∧
      ended = (.error (.deletionTimeout ObjectKind.pod.name name),
        { clock := start + 300000, log := timetable ns name start 151 })) := by
  induction looks generalizing count with
  | zero =>
    obtain rfl : count = 150 := total
    refine .inr ⟨fun look low high => absurd high (Nat.not_lt.2 low), run_awaitGone_of_eq⟩
  | succ looks ih =>
    have early : count < 150 := by omega
    by_cases missing : Missing ns name (answers count)
    · refine .inl ⟨count, Nat.le_refl _, early, missing, ?_, run_awaitGone_of_missing early missing⟩
      exact fun look low high => absurd high (Nat.not_lt.2 low)
    · have first : ∀ look, count ≤ look → ¬count + 1 ≤ look → ¬Missing ns name (answers look) := by
        intro look low high
        obtain rfl : look = count := by omega
        exact missing
      simp only [run_awaitGone_of_not_missing early missing]
      have rest : count + 1 + looks = 150 := by omega
      rcases ih rest with ⟨last, low, high, said, others, ended⟩ | ⟨others, ended⟩
      · refine .inl ⟨last, by omega, high, said, fun look least less => ?_, ended⟩
        by_cases later : count + 1 ≤ look
        · exact others look later less
        · exact first look least later
      · refine .inr ⟨fun look least less => ?_, ended⟩
        by_cases later : count + 1 ≤ look
        · exact others look later less
        · exact first look least later

/-- A wait for a deleted pod ends whatever it is told, when answers take no time. It looks at once
and then every two seconds. The first look within 300 seconds that says that there is no such pod
ends it well and at that moment; any other answer only leads to the next look. Without such a look
the wait ends badly after 300 seconds. At most 151 looks are taken. -/
theorem awaitDeletion_on_time (answers : Nat → Except CallFailure Http.Response)
    (ns name : String) (start : Nat) :
    let ended := (awaitDeletion ns name).run (Clocked.handler answers) { clock := start }
    ((∃ last, 2000 * last < 300000 ∧ Missing ns name (answers last) ∧
        (∀ look < last, ¬Missing ns name (answers look)) ∧
        ended = (.ok (),
          { clock := start + 2000 * last, log := timetable ns name start (last + 1) })) ∨
      ((∀ look, 2000 * look < 300000 → ¬Missing ns name (answers look)) ∧
        ended = (.error (.deletionTimeout ObjectKind.pod.name name),
          { clock := start + 300000, log := timetable ns name start 151 }))) ∧
    ended.2.log.length ≤ 151 := by
  intro ended
  have begun : ended = (awaitGone (start + 300000) ns name 151).run (Clocked.handler answers)
      (waited ns name start 0) := run_awaitDeletion
  rcases run_awaitGone answers ns name start (Nat.zero_add 150) with
    ⟨last, _, high, said, others, whole⟩ | ⟨others, whole⟩
  · rw [← begun] at whole
    refine ⟨.inl ⟨last, by omega, said, fun look => others look (Nat.zero_le look), whole⟩, ?_⟩
    rw [whole]
    have few : last + 1 ≤ 151 := by omega
    exact Nat.le_trans (length_timetable_le start (last + 1)) few
  · rw [← begun] at whole
    refine ⟨.inr ⟨fun look less => others look (Nat.zero_le look) (by omega), whole⟩, ?_⟩
    rw [whole]
    exact length_timetable_le start 151

end StagedTest.Client
