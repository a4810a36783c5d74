import StagedTest.ClientError
import StagedTest.Host
import StagedTest.Text.Affix
import StagedTest.Value.Codec
import StagedTest.Yaml.Reader

/-!
# Descriptions of clusters

A description names clusters, users, and contexts that put the two together; one context is the
one to work in. Descriptions are kept in files. A command names its file, or the files are those
that a variable lists, or there is one at the usual place; of several files, the first to say
something counts.
-/
namespace StagedTest

/-- Which cluster and which user belong together. -/
structure Context where
  /-- The name. -/
  name : String
  /-- The cluster. -/
  cluster : String
  /-- The user. -/
  user : String

/-- What a description says that a client needs. -/
structure ClusterDescription where
  /-- The names of the clusters. -/
  clusters : List String
  /-- The names of the users. -/
  users : List String
  /-- The contexts. -/
  contexts : List Context
  /-- The context to work in. -/
  current : Option String

namespace ClusterDescription

/-- The form of something with a name. -/
def nameCodec : Codec String := Fields.codec (Fields.required "name" .text id) "NamedCluster"

/-- The form of what a context puts together. -/
def pairCodec : Codec (String × String) :=
  Fields.codec
    (Prod.mk <$> Fields.required "cluster" .text Prod.fst <*> Fields.required "user" .text Prod.snd)
    "Context"

/-- The form of a context. -/
def contextCodec : Codec Context :=
  Fields.codec
    ((fun name pair => ⟨name, pair.1, pair.2⟩) <$> Fields.required "name" .text Context.name
      <*> Fields.required "context" pairCodec fun context => (context.cluster, context.user))
    "NamedContext"

/-- The written form. -/
def codec : Codec ClusterDescription :=
  Fields.codec
    (ClusterDescription.mk <$> Fields.lenient "clusters" nameCodec.list [] clusters
      <*> Fields.lenient "users" nameCodec.list [] users
      <*> Fields.lenient "contexts" contextCodec.list [] contexts
      <*> Fields.optional "current-context" .text current)
    "Kubeconfig"

/-- What a text describes. -/
def parse (text : String) : Except ConfigFailure ClusterDescription :=
  match Yaml.parse? text with
  | none => .error .malformedFile
  | some value => (codec.decode value).mapError fun _ => .malformedFile

/-- Two descriptions put together. -/
def merge (first second : ClusterDescription) : ClusterDescription where
  clusters := first.clusters ++ second.clusters
  users := first.users ++ second.users
  contexts := first.contexts ++ second.contexts
  current := first.current <|> second.current

/-- The description that says nothing. -/
def empty : ClusterDescription := ⟨[], [], [], none⟩

/-- The context to work in, if it is fully described. -/
def context (description : ClusterDescription) : Except ConfigFailure Context :=
  match description.current with
  | none => .error .noContext
  | some name =>
    match description.contexts.find? (·.name == name) with
    | none => .error (.unknownContext name)
    | some context =>
      if !description.clusters.contains context.cluster then
        .error (.unknownCluster context.cluster)
      else if !description.users.contains context.user then .error (.unknownUser context.user)
      else .ok context

/-- The description in a file. -/
def read (path : String) : Program Host (Except ConfigFailure ClusterDescription) := do
  match ← Host.readFile path with
  | .error failure => return .error (.unreadableFile path failure)
  | .ok text => return parse text

/-- The description in several files. -/
def readAll : List String → Program Host (Except ConfigFailure ClusterDescription)
  | [] => return .ok empty
  | path :: rest => do
    match ← read path with
    | .error failure => return .error failure
    | .ok first => return (← readAll rest).map first.merge

/-- The files in which descriptions are looked for, given the variables. -/
def usualPaths (environment : StringMap String) : List String :=
  let listed := (Text.parts ':' ((environment.get? "KUBECONFIG").getD "")).filter (· ≠ "")
  if listed.isEmpty then [(environment.get? "HOME").getD "" ++ "/.kube/config"] else listed

end ClusterDescription

end StagedTest
