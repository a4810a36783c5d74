import StagedTest.Text.FormEncoded
import StagedTest.Transport

/-!
# Calls over HTTP

Each call to the cluster is one request, whose answer is read as what was asked for. Whatever
goes wrong is reported with what was tried.
-/
namespace StagedTest.Client

/-- The result of a request that could perhaps not be made. -/
def send (request : Except CallFailure Http.Request) :
    Program Transport (Except CallFailure Http.Response) :=
  match request with
  | .ok request => Transport.exchange request
  | .error failure => .done (.error failure)

/-- Reads the answer to a request, and reports what goes wrong with what was tried. -/
def receive {α : Type} (method what name : String) (decode : Value → Except DecodeError α)
    (result : Except CallFailure Http.Response) : Except ClientError α :=
  match result >>= Http.Response.read decode with
  | .ok value => .ok value
  | .error failure => .error (.call method what name failure)

/-- The request that creates an object. -/
def createRequest (ns : String) (object : Object) : Except CallFailure Http.Request :=
  Http.Request.make .post (object.kind.path ns ++ "?") (some Http.json) (some object.print)

/-- Creates an object. -/
def create (ns : String) (object : Object) : Program Transport (Except ClientError Object) := do
  let answer ← send (createRequest ns object)
  return receive "create" object.kind.name object.displayName (Object.decode object.kind) answer

/-- The request that reads an object. -/
def readRequest (path name : String) : Except CallFailure Http.Request :=
  Http.Request.make .get (path ++ "/" ++ name) none none

/-- Reads an object. -/
def read (kind : ObjectKind) (ns name : String) :
    Program Transport (Except ClientError Object) := do
  let answer ← send (readRequest (kind.path ns) name)
  return receive "get" kind.name name (Object.decode kind) answer

/-- Reads a pod. -/
def readPod (ns name : String) : Program Transport (Except ClientError Pod) := do
  let answer ← send (readRequest (ObjectKind.pod.path ns) name)
  return receive "get" ObjectKind.pod.name name Pod.codec.decode answer

/-- Reads a secret. -/
def readSecret (ns name : String) : Program Transport (Except ClientError Secret) := do
  let answer ← send (readRequest (ObjectKind.secret.path ns) name)
  return receive "get" ObjectKind.secret.name name Secret.codec.decode answer

/-- What the interface says when it has deleted something without giving it back. -/
structure Receipt where
  /-- Whether all went well, in a word. -/
  status : Option String
  /-- The code. -/
  code : UInt16
  /-- What happened. -/
  message : String
  /-- What happened, in a word. -/
  reason : String

/-- The words for whether all went well. -/
def statusWord : Codec String where
  print := .text
  decode value := do
    let word ← Codec.text.decode value
    if word = "Success" ∨ word = "Failure" then return word
    else throw (.unknownVariant word ["Success", "Failure"])

/-- The written form of a receipt. -/
def Receipt.codec : Codec Receipt :=
  Fields.codec
    (Receipt.mk <$> Fields.optional "status" statusWord status
      <*> Fields.defaulted "code" .word16 0 code
      <*> Fields.defaulted "message" .text "" message
      <*> Fields.defaulted "reason" .text "" reason)
    "Status"

/-- Reads what comes back for a deletion: a receipt, or else what was deleted. The last field that
tells the kind decides which of them it is. -/
def decodeDeleted (decode : Value → Except DecodeError Unit) (value : Value) :
    Except DecodeError Unit :=
  match value.merged.field? "kind" with
  | some (.text "Status") => (Receipt.codec.decode value).map fun _ => ()
  | _ => decode value

/-- Reads an object and forgets it. -/
def decodeObject (kind : ObjectKind) (value : Value) : Except DecodeError Unit :=
  (Object.decode kind value).map fun _ => ()

/-- What is said of a list of objects. -/
def listMetadata : Codec Unit :=
  Fields.objectCodec
    ((fun _ _ _ _ => ()) <$> Fields.optional "continue" .text (fun _ => none)
      <*> Fields.optional "remainingItemCount" .int64 (fun _ => none)
      <*> Fields.optional "resourceVersion" .text (fun _ => none)
      <*> Fields.optional "selfLink" .text (fun _ => none))
    "ListMeta"

/-- Reads a list of objects and forgets it. -/
def decodeObjects (kind : ObjectKind) (value : Value) : Except DecodeError Unit :=
  let items : Codec Unit := ⟨fun _ => .null, decodeObject kind⟩
  let fields : Fields Unit Unit :=
    (fun _ _ => ()) <$> Fields.required "metadata" listMetadata id
      <*> Fields.required "items" items.list (fun _ => [])
  (fields.codec "ObjectList").decode value

/-- The request that deletes an object. -/
def deleteRequest (kind : ObjectKind) (ns name : String) : Except CallFailure Http.Request :=
  Http.Request.make .delete (kind.path ns ++ "/" ++ name ++ "?") (some Http.json)
    (some (.record []))

/-- Deletes an object. -/
def delete (kind : ObjectKind) (ns name : String) :
    Program Transport (Except ClientError Unit) := do
  let answer ← send (deleteRequest kind ns name)
  return receive "delete" kind.name name (decodeDeleted (decodeObject kind)) answer

/-- Labels as a condition that objects have to meet. -/
def labelSelector (labels : StringMap String) : String :=
  ",".intercalate (labels.entries.map fun (key, value) => key ++ "=" ++ value)

/-- The request that deletes the objects that meet a condition. -/
def deleteAllRequest (kind : ObjectKind) (ns selector : String) :
    Except CallFailure Http.Request :=
  Http.Request.make .delete (kind.path ns ++ "?&labelSelector=" ++ Text.formEncoded selector)
    (some Http.json) none

/-- Deletes the objects that carry all of some labels. -/
def deleteAll (kind : ObjectKind) (ns : String) (labels : StringMap String) :
    Program Transport (Except ClientError Unit) := do
  let selector := labelSelector labels
  let answer ← send (deleteAllRequest kind ns selector)
  return receive "delete_collection" kind.name selector (decodeDeleted (decodeObjects kind)) answer

/-- What the interface calls a tag in a stream of images. -/
def imageKind : String := "ImageStreamTag"

/-- The path of the tags of a namespace. -/
def imagePath (ns : String) : String :=
  "/apis/image.openshift.io/v1/namespaces/" ++ ns ++ "/imagestreamtags"

/-- The metadata of a tag. -/
def tagMetadata : Fields ObjectMetadata ObjectMetadata :=
  .defaulted "metadata" ObjectMetadata.codec .empty id

/-- Reads a tag, of which only the metadata has to be given once and well formed. Of everything else
the last field of a name counts. -/
def decodeTag : Value → Except DecodeError Value
  | .record fields => do
    discard (tagMetadata.decodeRecord fields)
    return (Value.record fields).merged
  | other => .error (.unexpected other "struct DynamicObject")

/-- From where the image of a tag is pulled. -/
def pullSpecOf? (tag : Value) : Option String :=
  match (tag.field? "image").bind (·.field? "dockerImageReference") with
  | some (.text pullSpec) => some pullSpec
  | _ => none

/-- Finds out from where an image is pulled. -/
def pullSpec (ns : String) (image : ImageTag) : Program Transport (Except ClientError String) := do
  let answer ← send (readRequest (imagePath ns) image.name)
  return match receive "get" imageKind image.name decodeTag answer with
    | .error error => .error error
    | .ok tag =>
      match pullSpecOf? tag with
      | some pullSpec => .ok pullSpec
      | none => .error (.missingImageReference ns image.name)

end StagedTest.Client
