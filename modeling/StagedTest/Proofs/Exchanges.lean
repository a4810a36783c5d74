import StagedTest.Client
import StagedTest.Proofs.History

/-!
# Exchanges

A call over HTTP is one exchange, or none where its request cannot be made, and what it comes to
is what is read from the answer. The statements here say so of the histories of single calls, so
that what is put together from them is told by its answers.
-/
namespace StagedTest.Client

open Program

/-! ## Requests -/

section

variable {method : Http.Method} {target : String} {contentType : Option String}
  {body : Option Value}

/-- A request is for what it is made for. -/
theorem method_of_make {request : Http.Request}
    (made : Http.Request.make method target contentType body = .ok request) :
    request.method = method := by
  rw [Http.Request.make] at made
  split at made <;> cases made
  rfl

/-- Nothing but its target keeps a request from being made. -/
theorem malformed_of_make {failure : CallFailure}
    (made : Http.Request.make method target contentType body = .error failure) :
    failure = .malformedRequest := by
  rw [Http.Request.make] at made
  split at made <;> cases made
  rfl

end

/-- The requests that went out, in order. -/
def sent (history : History Transport) : List Http.Request :=
  history.filterMap fun
    | ⟨.exchange request, _⟩ | ⟨.exchangeBefore _ request, _⟩ => some request
    | _ => none

/-- Without questions nothing goes out. -/
@[simp] theorem sent_nil : sent [] = [] := rfl

/-- What goes out in two parts goes out in one and then in the other. -/
@[simp] theorem sent_append (early late : History Transport) :
    sent (early ++ late) = sent early ++ sent late := List.filterMap_append

/-- To find out whether a token is called off sends no request. -/
@[simp] theorem sent_isCancelled_cons (token : Token) (cancelled : Bool)
    (rest : History Transport) :
    sent (⟨TransportCall.isCancelled token, cancelled⟩ :: rest) = sent rest := rfl

/-- To find out the time sends no request. -/
@[simp] theorem sent_now_cons (time : Nat) (rest : History Transport) :
    sent (⟨TransportCall.now, time⟩ :: rest) = sent rest := rfl

/-- A pause sends no request. -/
@[simp] theorem sent_pauseUnlessCancelled_cons (token : Token) (duration : Nat)
    (rest : History Transport) :
    sent (⟨TransportCall.pauseUnlessCancelled token duration, ()⟩ :: rest) = sent rest := rfl

/-- The exchange for a request, if the request can be made. -/
def exchanged (request : Except CallFailure Http.Request)
    (answer : Except CallFailure Http.Response) : History Transport :=
  match request with
  | .ok request => [⟨TransportCall.exchange request, answer⟩]
  | .error _ => []

/-- What comes of a request: the answer, if the request can be made. -/
def reply (request : Except CallFailure Http.Request)
    (answer : Except CallFailure Http.Response) : Except CallFailure Http.Response :=
  match request with
  | .ok _ => answer
  | .error failure => .error failure

/-- Only the request goes out in its exchange. -/
@[simp] theorem sent_exchanged (request : Except CallFailure Http.Request)
    (answer : Except CallFailure Http.Response) :
    sent (exchanged request answer) = request.toOption.toList := by
  cases request <;> rfl

/-- Sending a request takes its exchange and ends with what comes of it. -/
theorem ends_send_iff {request : Except CallFailure Http.Request} {history : History Transport}
    {result : Except CallFailure Http.Response} :
    (send request).Ends history result ↔
      ∃ answer, history = exchanged request answer ∧ result = reply request answer := by
  cases request with
  | ok request =>
    refine ends_ask_iff.trans ⟨fun whole => ⟨result, whole, rfl⟩, ?_⟩
    rintro ⟨answer, whole, rfl⟩
    exact whole
  | error failure =>
    refine ends_done_iff.trans ⟨fun ended => ⟨result, ended⟩, ?_⟩
    rintro ⟨_, ended⟩
    exact ended

/-- A call takes the exchange of its request and ends with what is read from the answer. -/
theorem ends_exchange_iff {α : Type} {request : Except CallFailure Http.Request}
    {read : Except CallFailure Http.Response → α} {history : History Transport} {result : α} :
    ((send request).bind fun answer => .done (read answer)).Ends history result ↔
      ∃ answer, history = exchanged request answer ∧ result = read (reply request answer) := by
  simp only [ends_bind_iff, ends_send_iff, ends_done_iff]
  constructor
  · rintro ⟨_, _, _, rfl, ⟨answer, rfl, rfl⟩, rfl, rfl⟩
    exact ⟨answer, List.append_nil _, rfl⟩
  · rintro ⟨answer, rfl, rfl⟩
    exact ⟨_, [], _, (List.append_nil _).symm, ⟨answer, rfl, rfl⟩, rfl, rfl⟩

/-- A request that can be made takes its exchange and nothing else. -/
theorem exchanged_of_ok {made : Except CallFailure Http.Request} {request : Http.Request}
    (possible : made = .ok request) (answer : Except CallFailure Http.Response) :
    exchanged made answer = [⟨TransportCall.exchange request, answer⟩] := by
  rw [possible, exchanged]

/-- Nothing comes of a request that cannot be made. -/
theorem reply_eq_ok {made : Except CallFailure Http.Request}
    {answer : Except CallFailure Http.Response} {response : Http.Response}
    (replied : reply made answer = .ok response) :
    ∃ request, made = .ok request ∧ answer = .ok response := by
  cases made with
  | ok request => exact ⟨request, rfl, replied⟩
  | error failure => cases replied

/-- What goes well has been answered, and read from the answer. -/
theorem receive_eq_ok {α : Type} {method what name : String}
    {decode : Value → Except DecodeError α} {result : Except CallFailure Http.Response} {value : α}
    (received : receive method what name decode result = .ok value) :
    ∃ response, result = .ok response ∧ response.read decode = .ok value := by
  rw [receive] at received
  split at received
  · rename_i read
    cases received
    cases result with
    | ok response => exact ⟨response, rfl, read⟩
    | error failure => cases read
  · cases received

-- From here on exchanges are told by these statements: to open them would open their requests.
attribute [irreducible] exchanged

/-! ## What comes first -/

section

variable {α : Type} {token : Token} {deadline duration : Nat} {request : Http.Request}
  {history : History Transport} {value : α}

/-- What begins by finding out whether a token is called off has that first in its history. -/
theorem ends_isCancelled_bind_iff {next : Bool → Program Transport α} :
    ((Transport.isCancelled token).bind next).Ends history value ↔
      ∃ cancelled rest, history = ⟨TransportCall.isCancelled token, cancelled⟩ :: rest ∧
        (next cancelled).Ends rest value :=
  ends_call_iff

/-- What begins by finding out the time has the time first in its history. -/
theorem ends_now_bind_iff {next : Nat → Program Transport α} :
    (Transport.now.bind next).Ends history value ↔
      ∃ (time : Nat) (rest : History Transport),
        history = ⟨TransportCall.now, time⟩ :: rest ∧ (next time).Ends rest value :=
  ends_call_iff

/-- What begins with an exchange up to a deadline has the exchange first in its history. -/
theorem ends_exchangeBefore_bind_iff
    {next : Option (Except CallFailure Http.Response) → Program Transport α} :
    ((Transport.exchangeBefore deadline request).bind next).Ends history value ↔
      ∃ answer rest, history = ⟨TransportCall.exchangeBefore deadline request, answer⟩ :: rest ∧
        (next answer).Ends rest value :=
  ends_call_iff

/-- What begins with a pause up to a deadline has the pause first in its history. -/
theorem ends_pauseBefore_bind_iff {next : Bool → Program Transport α} :
    ((Transport.pauseBefore deadline duration).bind next).Ends history value ↔
      ∃ lasted rest, history = ⟨TransportCall.pauseBefore deadline duration, lasted⟩ :: rest ∧
        (next lasted).Ends rest value :=
  ends_call_iff

/-- What begins with a pause has the pause first in its history. -/
theorem ends_pauseUnlessCancelled_bind_iff {next : Unit → Program Transport α} :
    ((Transport.pauseUnlessCancelled token duration).bind next).Ends history value ↔
      ∃ rest, history = ⟨TransportCall.pauseUnlessCancelled token duration, ()⟩ :: rest ∧
        (next ()).Ends rest value := by
  refine ends_call_iff.trans ⟨?_, ?_⟩
  · rintro ⟨_, rest, whole, later⟩
    exact ⟨rest, whole, later⟩
  · rintro ⟨rest, whole, later⟩
    exact ⟨(), rest, whole, later⟩

end

/-! ## Looks at a pod -/

/-- The request that reads a pod. -/
def podRequest (ns name : String) : Except CallFailure Http.Request :=
  readRequest (ObjectKind.pod.path ns) name

/-- The request that reads a pod is there to read. -/
theorem method_of_podRequest {ns name : String} {request : Http.Request}
    (made : podRequest ns name = .ok request) : request.method = .get := by
  rw [podRequest, readRequest] at made
  exact method_of_make made

/-- Nothing but names that do not fit keeps a pod from being read. -/
theorem malformed_of_podRequest {ns name : String} {failure : CallFailure}
    (made : podRequest ns name = .error failure) : failure = .malformedRequest := by
  rw [podRequest, readRequest] at made
  exact malformed_of_make made

/-- What a look at a pod shows. -/
def podShown (ns name : String) (answer : Except CallFailure Http.Response) :
    Except ClientError Pod :=
  receive "get" ObjectKind.pod.name name Pod.codec.decode (reply (podRequest ns name) answer)

/-- A look at a pod ends with what it shows. -/
theorem ends_readPod_iff {ns name : String} {history : History Transport}
    {result : Except ClientError Pod} :
    (readPod ns name).Ends history result ↔
      ∃ answer, history = exchanged (podRequest ns name) answer ∧
        result = podShown ns name answer :=
  ends_exchange_iff

/-- What begins with a look at a pod has its exchange first, and goes on with what it shows. -/
theorem ends_readPod_bind_iff {α : Type} {ns name : String} {history : History Transport}
    {next : Except ClientError Pod → Program Transport α} {value : α} :
    ((readPod ns name).bind next).Ends history value ↔
      ∃ answer rest, history = exchanged (podRequest ns name) answer ++ rest ∧
        (next (podShown ns name answer)).Ends rest value := by
  simp only [ends_bind_iff, ends_readPod_iff]
  constructor
  · rintro ⟨_, rest, _, rfl, ⟨answer, rfl, rfl⟩, later⟩
    exact ⟨answer, rest, rfl, later⟩
  · rintro ⟨answer, rest, rfl, later⟩
    exact ⟨_, rest, _, rfl, ⟨answer, rfl, rfl⟩, later⟩

end StagedTest.Client
