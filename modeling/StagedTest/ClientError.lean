import StagedTest.Text.Quoted

/-!
# Failures of cluster calls

A call to the cluster fails with a cause, and the cause decides how the failure counts: an object
that already exists and an object that is not there are expected when a test is run again. Every
cause has a wording, and a chain of wordings that leads from it to what lies underneath, which may
be a file that cannot be used.
-/
namespace StagedTest

/-- What a cluster's interface says of a failed call. -/
structure ApiResponse where
  /-- Whether the call went well, in a word. -/
  status : String
  /-- What went wrong. -/
  message : String
  /-- What went wrong, in a word for machines. -/
  reason : String
  /-- The code of the answer. -/
  code : UInt16
deriving DecidableEq, Inhabited, Repr

namespace ApiResponse

/-- What went wrong, and the word for it. -/
def summary (response : ApiResponse) : String := response.message ++ ": " ++ response.reason

/-- Everything that the interface said. -/
def details (response : ApiResponse) : String :=
  "ErrorResponse \x7b status: " ++ Text.quoted response.status ++
    ", message: " ++ Text.quoted response.message ++
    ", reason: " ++ Text.quoted response.reason ++
    ", code: " ++ toString response.code.toNat ++ " \x7d"

/-- The code of the answer, where it is one that answers can have. -/
def statusCode? (response : ApiResponse) : Option Nat :=
  let code := response.code.toNat
  if 100 ≤ code ∧ code ≤ 999 then some code else none

end ApiResponse

/-- Why a file cannot be used. -/
inductive FileFailure
  /-- There is nothing at the path. -/
  | missing
  /-- There is a directory at the path. -/
  | isDirectory
  /-- The path goes on behind something that is not a directory. -/
  | notDirectory
  /-- What the file holds is no text. -/
  | notText
  /-- Anything else, as the system words it. -/
  | other (wording : String)
deriving DecidableEq, Inhabited, Repr

/-- The wording of the cause. -/
def FileFailure.message : FileFailure → String
  | .missing => "No such file or directory (os error 2)"
  | .isDirectory => "Is a directory (os error 21)"
  | .notDirectory => "Not a directory (os error 20)"
  | .notText => "stream did not contain valid UTF-8"
  | .other wording => wording

/-- Why the description of a cluster cannot be used. -/
inductive ConfigFailure
  /-- The description says no context to work in. -/
  | noContext
  /-- The context to work in is not described. -/
  | unknownContext (name : String)
  /-- The cluster of the context is not described. -/
  | unknownCluster (name : String)
  /-- The user of the context is not described. -/
  | unknownUser (name : String)
  /-- The file of the description cannot be read. -/
  | unreadableFile (path : String) (source : FileFailure)
  /-- What the file says is no description. -/
  | malformedFile
deriving DecidableEq, Inhabited, Repr

namespace ConfigFailure

/-- The wording of the cause. -/
def message : ConfigFailure → String
  | .noContext => "failed to determine current context"
  | .unknownContext name => "failed to load current context: " ++ name
  | .unknownCluster name => "failed to load the cluster of context: " ++ name
  | .unknownUser name => "failed to find named user: " ++ name
  | .unreadableFile path source =>
    "failed to read kubeconfig from '" ++ Text.quoted path ++ "': " ++ source.message
  | .malformedFile => "failed to parse kubeconfig YAML"

/-- The wordings of what lies underneath the cause. -/
def underneath : ConfigFailure → List String
  | .unreadableFile _ source => [source.message]
  | _ => []

end ConfigFailure

/-- Why a call came to nothing. -/
inductive CallFailure
  /-- The interface refused the call. -/
  | refused (response : ApiResponse)
  /-- The answer could not be read. -/
  | unreadableAnswer
  /-- A name does not fit into a request. -/
  | malformedRequest
  /-- The answer has no end. -/
  | endlessAnswer
  /-- There is no way to the cluster. -/
  | unreachable
  /-- Nothing says where the cluster is. -/
  | unconfigured (source : ConfigFailure)
deriving DecidableEq, Inhabited, Repr

namespace CallFailure

/-- The wording of the obstacle on the way to the cluster, from the outside in. -/
def unreachableChain : List String :=
  [ "error trying to connect: tcp connect error: Network is unreachable (os error 101)"
  , "tcp connect error: Network is unreachable (os error 101)"
  , "Network is unreachable (os error 101)" ]

/-- The wording of a cause. -/
def message : CallFailure → String
  | .refused response =>
    "ApiError: " ++ response.summary ++ " (" ++ response.details ++ ")"
  | .unreadableAnswer => "Error deserializing response"
  | .malformedRequest =>
    "Failed to build request: failed to build request: invalid uri character"
  | .endlessAnswer => "Error finding newline character"
  | .unreachable => "HyperError: " ++ unreachableChain.headD ""
  | .unconfigured source => "Failed to infer configuration: " ++ source.message

/-- The wordings of what lies underneath a cause. -/
def underneath : CallFailure → List String
  | .refused response => [response.summary]
  | .malformedRequest =>
    ["failed to build request: invalid uri character", "invalid uri character"]
  | .unreachable => unreachableChain
  | .unconfigured source => source.message :: source.underneath
  | .unreadableAnswer | .endlessAnswer => []

/-- What the interface said, if it was reached. -/
def response? : CallFailure → Option ApiResponse
  | .refused response => some response
  | _ => none

end CallFailure

/-- Why a client of a cluster does not get what it wants. -/
inductive ClientError
  /-- The client cannot be set up. -/
  | initialization (source : CallFailure)
  /-- The description of the cluster cannot be read. -/
  | configRead (source : ConfigFailure)
  /-- The description of the cluster cannot be used. -/
  | configLoad (source : ConfigFailure)
  /-- A call failed. -/
  | call (method what name : String) (source : CallFailure)
  /-- A tag says nothing of its image. -/
  | missingImageReference (ns name : String)
  /-- An object does not go away. -/
  | deletionTimeout (what name : String)
deriving DecidableEq, Inhabited, Repr

namespace ClientError

/-- How a failure counts. -/
inductive Kind
  /-- The object is already there. -/
  | alreadyExists
  /-- The object is not there. -/
  | notFound
  /-- Anything else. -/
  | other
deriving DecidableEq, Inhabited, Repr

/-- The cause of a failed call. -/
def callFailure? : ClientError → Option CallFailure
  | .initialization source => some source
  | .call _ _ _ source => some source
  | _ => none

/-- What the interface said, if it was reached. -/
def response? (error : ClientError) : Option ApiResponse := error.callFailure?.bind (·.response?)

/-- The code of the answer. -/
def statusCode? (error : ClientError) : Option Nat := error.response?.bind (·.statusCode?)

/-- The interface's word for what went wrong. -/
def reason? (error : ClientError) : Option String := error.response?.map (·.reason)

/-- How a failure counts. A conflict means that an object is already there only where the
interface says so in a word, because other conflicts have the same code. -/
def kind (error : ClientError) : Kind :=
  if error.statusCode? = some 409 ∧ error.reason? = some "AlreadyExists" then .alreadyExists
  else if error.statusCode? = some 404 then .notFound
  else .other

/-- A result in which failures of one kind count as success without a value. -/
def tolerate {α : Type} (tolerated : Kind) : Except ClientError α → Except ClientError (Option α)
  | .ok value => .ok (some value)
  | .error error => if error.kind = tolerated then .ok none else .error error

/-- The wording of a failure. -/
def message : ClientError → String
  | .initialization source => "Error initializing the Kubernetes client: " ++ source.message
  | .configRead source => "Unable to read kubeconfig: " ++ source.message
  | .configLoad source => "Unable to create client from kubeconfig: " ++ source.message
  | .call method what name source =>
    s!"Unable to {method} {what} '{name}': {source.message}"
  | .missingImageReference ns name =>
    s!"Image stream tag '{name}' in namespace '{ns}' has no image reference"
  | .deletionTimeout what name => s!"Timed out waiting for {what} '{name}' to be deleted"

/-- The wording of a failure and of everything underneath it. -/
def chain (error : ClientError) : List String :=
  error.message ::
    match error with
    | .initialization source | .call _ _ _ source => source.message :: source.underneath
    | .configRead source | .configLoad source => source.message :: source.underneath
    | .missingImageReference .. | .deletionTimeout .. => []

end ClientError

end StagedTest
