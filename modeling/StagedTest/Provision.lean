import StagedTest.SharedEnvironment

/-!
# Provisioning

What has to be there before the first step runs: a fresh shared secret, copies of the secrets
that steps ask for, and the identity, role and grant that the pods run with. All secrets are read
before the first copy is created, and two secrets that would have the same copy are found before
any is read.
-/
namespace StagedTest.Provision

/-- Replaces the shared secret of an earlier run by an empty one. -/
def resetSharedSecret (plan : Plan) : Attempt Unit := do
  let name := Naming.sharedSecret plan.test
  let deleted := Cluster.deleteSecret plan.ns name
  let _ ← Attempt.orFail (.deleteSecret name)
    (deleted.bind fun answer => .done (ClientError.tolerate .notFound answer))
  Attempt.orFail (.createSecret name)
    (Cluster.create plan.ns (.secret (.shared plan.ns plan.test)))

/-- The secrets to copy, by the names of their copies. Of two different secrets with the same
copy the second one in order is refused. -/
def references : StringMap Credential → List Credential →
    Except RunError (StringMap Credential)
  | known, [] => .ok known
  | known, credential :: rest =>
    match known.get? credential.mirrorName with
    | none => references (known.insert credential.mirrorName credential) rest
    | some first =>
      if first.ns = credential.ns ∧ first.name = credential.name then references known rest
      else .error (.mirrorNameCollision credential.mirrorName first.source credential.source)

/-- The secrets that the steps of a test ask for, in the order of the steps. -/
def credentials (config : TestConfiguration) : List Credential :=
  config.steps.flatMap (·.credentials)

/-- Reads secrets and makes their copies, in order. -/
def readAll (ns : String) : List (String × Credential) → Attempt (List (String × Secret))
  | [] => return []
  | (name, credential) :: rest => do
    let source ← Attempt.orFail (.readCredential credential.ns credential.name)
      (Cluster.readSecret credential.ns credential.name)
    let copies ← readAll ns rest
    return (name, source.mirrored ns name) :: copies

/-- Creates an object unless it is already there. -/
def createIfAbsent (blame : ClientError → RunError) (ns : String) (object : Object) :
    Attempt Unit := do
  let created := Cluster.create ns object
  let _ ← Attempt.orFail blame
    (created.bind fun answer => .done (ClientError.tolerate .alreadyExists answer))

/-- Creates copies, in order. -/
def createAll (ns : String) : List (String × Secret) → Attempt Unit
  | [] => return ()
  | (name, copy) :: rest => do
    createIfAbsent (.createCredential name) ns (.secret copy)
    createAll ns rest

/-- Copies the secrets that the steps of a test ask for. -/
def mirrorCredentials (plan : Plan) : Attempt Unit := do
  let references ← Attempt.ofExcept (references ∅ (credentials plan.config))
  let copies ← readAll plan.ns references.entries
  createAll plan.ns copies

/-- Creates the identity, the role and the grant of a test. -/
def createAccess (plan : Plan) : Attempt Unit := do
  let create := fun (object : Object) =>
    createIfAbsent (.createAccess object.kind.name plan.test) plan.ns object
  create (.serviceAccount (Access.serviceAccount plan.ns plan.test))
  create (.role (Access.role plan.ns plan.test))
  create (.roleBinding (Access.roleBinding plan.ns plan.test))

/-- Provides everything that the steps of a test rely on, and gives the environment that they
share. -/
def all (plan : Plan) : Attempt (List EnvVar) := do
  let environment ← SharedEnvironment.assemble plan
  resetSharedSecret plan
  mirrorCredentials plan
  createAccess plan
  return environment

end StagedTest.Provision
