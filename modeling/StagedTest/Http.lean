import StagedTest.ClientError
import StagedTest.Value.Codec
import StagedTest.Value.Json

/-!
# Requests and answers

What goes to a cluster's interface and what comes back. A request is made only if its target
consists of characters that targets may have. An answer is read as what it says if its code
reports success, and as a refusal if it does not.
-/
namespace StagedTest.Http

/-- What a request is for. -/
inductive Method
  /-- To read. -/
  | get
  /-- To create. -/
  | post
  /-- To delete. -/
  | delete
deriving DecidableEq, Inhabited, Repr

/-- The word for what a request is for. -/
def Method.name : Method → String
  | .get => "GET"
  | .post => "POST"
  | .delete => "DELETE"

/-- A request. -/
structure Request where
  /-- What the request is for. -/
  method : Method
  /-- The path and the query. -/
  target : String
  /-- The format of the body. -/
  contentType : Option String := none
  /-- The body. -/
  body : Option Value := none
deriving Inhabited

/-- An answer. -/
structure Response where
  /-- The code of the answer. -/
  status : Nat
  /-- The body. -/
  body : String
deriving DecidableEq, Inhabited, Repr

/-- Whether a character may stand in a path. -/
def isPathChar (c : Char) : Bool :=
  c == '!' || c == '"' || ('$' ≤ c && c ≤ ';') || c == '=' || ('@' ≤ c && c ≤ '_') ||
    ('a' ≤ c && c ≤ '~')

/-- Whether a character may stand in a query. -/
def isQueryChar (c : Char) : Bool :=
  c == '!' || ('$' ≤ c && c ≤ ';') || c == '=' || ('?' ≤ c && c ≤ '~')

/-- The query of a target, up to a fragment. -/
def query? : List Char → Option (List Char)
  | [] => some []
  | c :: rest =>
    if c = '#' then some []
    else if isQueryChar c then (query? rest).map (c :: ·)
    else none

/-- The path and the query of a target, up to a fragment. -/
def target? : List Char → Option (List Char)
  | [] => some []
  | c :: rest =>
    if c = '#' then some []
    else if c = '?' then (query? rest).map (c :: ·)
    else if isPathChar c then (target? rest).map (c :: ·)
    else none

/-- The format of the bodies of requests. -/
def json : String := "application/json"

namespace Request

/-- A request, if its target may be one. -/
def make (method : Method) (target : String) (contentType : Option String)
    (body : Option Value) : Except CallFailure Request :=
  match target? target.toList with
  | some target => .ok { method, target := String.ofList target, contentType, body }
  | none => .error .malformedRequest

end Request

/-- The words of the codes that report an error. -/
def reasonPhrases : List (Nat × String) :=
  [ (400, "Bad Request"), (401, "Unauthorized"), (402, "Payment Required"), (403, "Forbidden")
  , (404, "Not Found"), (405, "Method Not Allowed"), (406, "Not Acceptable")
  , (407, "Proxy Authentication Required"), (408, "Request Timeout"), (409, "Conflict")
  , (410, "Gone"), (411, "Length Required"), (412, "Precondition Failed")
  , (413, "Payload Too Large"), (414, "URI Too Long"), (415, "Unsupported Media Type")
  , (416, "Range Not Satisfiable"), (417, "Expectation Failed"), (418, "I'm a teapot")
  , (421, "Misdirected Request"), (422, "Unprocessable Entity"), (423, "Locked")
  , (424, "Failed Dependency"), (426, "Upgrade Required"), (428, "Precondition Required")
  , (429, "Too Many Requests"), (431, "Request Header Fields Too Large")
  , (451, "Unavailable For Legal Reasons"), (500, "Internal Server Error")
  , (501, "Not Implemented"), (502, "Bad Gateway"), (503, "Service Unavailable")
  , (504, "Gateway Timeout"), (505, "HTTP Version Not Supported")
  , (506, "Variant Also Negotiates"), (507, "Insufficient Storage"), (508, "Loop Detected")
  , (510, "Not Extended"), (511, "Network Authentication Required") ]

/-- A code with the words that go with it. -/
def statusText (code : Nat) : String :=
  s!"{code} " ++ (reasonPhrases.lookup code).getD "<unknown status code>"

/-- What a refusal says of itself. -/
def refusalCodec : Codec ApiResponse :=
  Fields.codec
    (ApiResponse.mk <$> Fields.required "status" .text ApiResponse.status
      <*> Fields.defaulted "message" .text "" ApiResponse.message
      <*> Fields.defaulted "reason" .text "" ApiResponse.reason
      <*> Fields.required "code" .word16 ApiResponse.code)
    "ErrorResponse"

namespace Response

/-- Whether an answer reports an error. -/
def isError (response : Response) : Bool := 400 ≤ response.status && response.status < 600

/-- What a refusal without words of its own is taken to say. -/
def wordless (response : Response) : ApiResponse :=
  { status := statusText response.status
    message := Text.quoted response.body
    reason := "Failed to parse error data"
    code := UInt16.ofNat response.status }

/-- What an answer that reports an error says. An answer that says one thing twice counts as
wordless. -/
def refusal (response : Response) : ApiResponse :=
  match Json.read? response.body with
  | some value =>
    match refusalCodec.decode value with
    | .ok said => said
    | .error _ => response.wordless
  | none => response.wordless

/-- Reads an answer, as it is written. -/
def read {α : Type} (decode : Value → Except DecodeError α) (response : Response) :
    Except CallFailure α :=
  if response.isError then .error (.refused response.refusal)
  else
    match Json.read? response.body with
    | none => .error .unreadableAnswer
    | some value =>
      match decode value with
      | .ok result => .ok result
      | .error _ => .error .unreadableAnswer

end Response

end StagedTest.Http
