import StagedTest.Metadata
import StagedTest.Naming
import StagedTest.ObjectKind
import StagedTest.Text.Base64

/-!
# Secrets

A secret holds named bytes. A test has one of its own behind the shared directory, and copies
of the secrets of other namespaces that its steps ask for.
-/
namespace StagedTest

/-- Named bytes. -/
structure Secret where
  /-- The metadata. -/
  metadata : ObjectMetadata := {}
  /-- The bytes. -/
  data : Option (StringMap (List UInt8)) := none
  /-- Whether the secret may not be changed. -/
  immutable : Option Bool := none
  /-- Bytes that are given as texts. -/
  stringData : Option (StringMap String) := none
  /-- What the secret is used for. -/
  type : Option String := none
deriving Inhabited

namespace Secret

/-- Bytes are written in base 64; null stands for no bytes. -/
def bytes : Codec (List UInt8) where
  print value := .text (Text.Base64.encode value)
  decode
    | .null => .ok []
    | .text written | .plain written =>
      match Text.Base64.decode written with
      | .ok value => .ok value
      | .error fault => .error (.malformed fault.message)
    | other => .error (.unexpected other "ByteString")

/-- The fields of a secret besides its kind. -/
def fields : Fields Secret Secret :=
  Secret.mk <$> Fields.lenient "metadata" ObjectMetadata.codec {} metadata
    <*> Fields.optional "data" (.map bytes) data
    <*> Fields.optional "immutable" .bool immutable
    <*> Fields.optional "stringData" (.map .text) stringData
    <*> Fields.optional "type" .text type

/-- The written form. -/
def codec : Codec Secret := fields.clusterCodec .secret

/-- The empty secret behind the shared directory of a test. -/
def shared (ns test : String) : Secret :=
  { metadata := { name := some (Naming.sharedSecret test), ns := some ns } }

/-- A copy of a secret: its type and contents under another name, and none of its metadata. -/
def mirrored (source : Secret) (ns name : String) : Secret :=
  { metadata := { name := some name, ns := some ns }
    data := source.data
    stringData := source.stringData
    type := source.type }

end Secret

end StagedTest
