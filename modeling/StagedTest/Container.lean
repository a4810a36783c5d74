import StagedTest.Value.Codec

/-!
# Containers

A container of a pod: the image that it runs, its command and environment, and what is mounted
in it. Fields that no step sets are kept as they come.
-/
namespace StagedTest

/-- An environment variable. -/
structure EnvVar where
  /-- The name. -/
  name : String
  /-- The value. -/
  value : Option String := none
  /-- Fields that are kept as they come. -/
  rest : List (String × Value) := []
deriving Inhabited

namespace EnvVar

/-- A variable with a value. -/
def of (name value : String) : EnvVar := { name, value := some value }

/-- The written form. -/
def codec : Codec EnvVar :=
  Fields.objectCodec
    (EnvVar.mk <$> Fields.lenient "name" .text "" name
      <*> Fields.optional "value" .text value
      <*> Fields.kept ["valueFrom"] rest)
    "EnvVar"

end EnvVar

/-- A volume as a container sees it. -/
structure VolumeMount where
  /-- The volume. -/
  name : String
  /-- The directory that it appears as. -/
  mountPath : String
  /-- Fields that are kept as they come. -/
  rest : List (String × Value) := []
deriving Inhabited

/-- The written form of a mount. -/
def VolumeMount.codec : Codec VolumeMount :=
  Fields.objectCodec
    (VolumeMount.mk <$> Fields.lenient "name" .text "" name
      <*> Fields.lenient "mountPath" .text "" mountPath
      <*> Fields.kept ["mountPropagation", "readOnly", "subPath", "subPathExpr"] rest)
    "VolumeMount"

/-- What a container asks of the machine, by resource. -/
structure ResourceQuantities where
  /-- What is set aside. -/
  requests : Option (StringMap String) := none
  /-- What may be used at most. -/
  limits : Option (StringMap String) := none
deriving Inhabited

/-- The written form of quantities. -/
def ResourceQuantities.codec : Codec ResourceQuantities :=
  Fields.objectCodec
    (ResourceQuantities.mk <$> Fields.optional "requests" (.map .text) requests
      <*> Fields.optional "limits" (.map .text) limits)
    "ResourceRequirements"

/-- A container of a pod. -/
structure Container where
  /-- The name. -/
  name : String
  /-- The image. -/
  image : Option String := none
  /-- The program and its first arguments. -/
  command : Option (List String) := none
  /-- Further arguments. -/
  args : Option (List String) := none
  /-- The environment; of several entries with one name the last counts. -/
  env : Option (List EnvVar) := none
  /-- What the container asks of the machine. -/
  resources : Option ResourceQuantities := none
  /-- The mounted volumes. -/
  volumeMounts : Option (List VolumeMount) := none
  /-- Where a final message is taken from. -/
  terminationMessagePolicy : Option String := none
  /-- Fields that are kept as they come. -/
  rest : List (String × Value) := []
deriving Inhabited

/-- The written form of a container. -/
def Container.codec : Codec Container :=
  Fields.objectCodec
    (Container.mk <$> Fields.lenient "name" .text "" name
      <*> Fields.optional "image" .text image
      <*> Fields.optional "command" (.list .text) command
      <*> Fields.optional "args" (.list .text) args
      <*> Fields.optional "env" EnvVar.codec.list env
      <*> Fields.optional "resources" ResourceQuantities.codec resources
      <*> Fields.optional "volumeMounts" VolumeMount.codec.list volumeMounts
      <*> Fields.optional "terminationMessagePolicy" .text terminationMessagePolicy
      <*> Fields.kept
        [ "envFrom", "imagePullPolicy", "lifecycle", "livenessProbe", "ports", "readinessProbe"
        , "securityContext", "startupProbe", "stdin", "stdinOnce", "terminationMessagePath", "tty"
        , "volumeDevices", "workingDir" ] rest)
    "Container"

end StagedTest
