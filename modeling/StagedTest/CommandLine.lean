import StagedTest.Client.Watch
import StagedTest.ClusterDescription
import StagedTest.CommandLine.Arguments
import StagedTest.Requirements
import StagedTest.Run
import StagedTest.RunFile
import StagedTest.Yaml.Writer

/-!
# The command line

A command is a program that asks its host for files, variables and the way to a cluster, and ends
with an exit code and with what it prints. `requires` prints the links of a test; `run` runs the
test, with values from the variables where the run file has none, and writes its test cases down
whether it succeeds or not. A command fails with a chain of causes, of which every wording is
printed.
-/
namespace StagedTest.CommandLine

/-- What is printed for the version. -/
def version : String := "multistage-cli 0.0.5\n"

/-- What is printed for help. -/
def usage : String :=
  "Run staged tests in a namespace of a cluster.\n\n" ++
    "multistage [--log-level LEVEL] [--kubeconfig PATH] COMMAND\n\n" ++
    "  run PATH [--report PATH] [--no-env]  run the test of a run file\n" ++
    "  requires PATH                        print what the test needs\n"

/-- How a command line ends. -/
structure Outcome where
  /-- The exit code. -/
  exitCode : UInt32
  /-- What is printed as the result. -/
  output : String := ""
  /-- What is printed as the complaint. -/
  complaint : String := ""
deriving DecidableEq, Inhabited, Repr

/-- Why a command fails. -/
inductive CommandError
  /-- The description of the cluster in a file cannot be used. -/
  | noClient (path : String) (source : ClientError)
  /-- No description of the cluster can be used. -/
  | noUsualClient (source : ClientError)
  /-- The run file cannot be read. -/
  | unreadableRunFile (path : String) (source : FileFailure)
  /-- The run file cannot be used. -/
  | malformedRunFile (path : String) (source : RunFileFailure)
  /-- The test cases cannot be written down. -/
  | unwritableReport (path : String) (source : FileFailure)
  /-- The test failed. -/
  | failedTest (name : String) (source : RunError)

namespace CommandError

/-- The wording of a failure and of everything underneath it. -/
def chain : CommandError → List String
  | .noClient path source =>
    ("Unable to create client from path '" ++ Text.quoted path ++ "'") :: source.chain
  | .noUsualClient source => "Unable to create default client" :: source.chain
  | .unreadableRunFile path source => [s!"Unable to read run file '{path}'", source.message]
  | .malformedRunFile path source => [s!"Unable to parse run file '{path}'", source.message]
  | .unwritableReport path source =>
    [s!"Unable to write report to '{path}'", source.message]
  | .failedTest name source => s!"Multi-stage test '{name}' failed" :: source.chain

/-- The wordings of a failure on one line. -/
def text (error : CommandError) : String := ": ".intercalate error.chain

end CommandError

/-- Something that a command does, which may make it fail. -/
abbrev Act (α : Type) : Type := ExceptT CommandError (Program Host) α

namespace Act

/-- The way in which a command that ends well or badly ends. -/
def outcome (act : Act String) : Program Host Outcome := do
  match ← act.run with
  | .ok output => return { exitCode := 0, output }
  | .error error => return { exitCode := 1, complaint := error.text ++ "\n" }

/-- Something that may fail, with the reason why the command then fails. -/
def orFail {α ε : Type} (reason : ε → CommandError) (program : Program Host (Except ε α)) : Act α :=
  ExceptT.mk do return (← program).mapError reason

end Act

/-- Finds the cluster by the description in a file. -/
def openNamed (path : String) : Act Unit := do
  let description ←
    Act.orFail (fun failure => .noClient path (.configRead failure)) (ClusterDescription.read path)
  Act.orFail (fun failure => .noClient path (.configLoad failure))
    (return description.context.map fun _ => ())

/-- Finds the cluster by the descriptions in the usual files. -/
def openUsual : Act Unit :=
  Act.orFail (fun failure => .noUsualClient (.initialization (.unconfigured failure))) do
    let paths := ClusterDescription.usualPaths (← Host.environment)
    return (← ClusterDescription.readAll paths).bind fun description =>
      description.context.map fun _ => ()

/-- Finds the cluster. -/
def openCluster : Option String → Act Unit
  | some path => openNamed path
  | none => openUsual

/-- Reads a run file. -/
def readRunFile (path : String) : Act RunFile := do
  let text ← Act.orFail (.unreadableRunFile path) (Host.readFile path)
  Act.orFail (.malformedRunFile path) (return RunFile.parse text)

/-- Runs the test of a plan on the cluster. -/
def runPlan (plan : Plan) : Program Host (Progress × Except RunError Unit) :=
  ((plan.run .initial).through Client.serve).through Host.transport

/-- Test cases as they are written down. -/
def reportText (cases : List TestCase) : String :=
  Json.pretty 0 (.sequence (cases.map TestCase.codec.print))

/-- Writes test cases down if a file is named for them. -/
def writeReport (cases : List TestCase) : Option String → Act Unit
  | none => return
  | some path =>
    Act.orFail (.unwritableReport path) (Host.writeFile path (reportText cases))

/-- Runs the test of a run file. -/
def run (kubeconfig : Option String) (path : String) (report : Option String)
    (usesEnvironment : Bool) : Act String := do
  openCluster kubeconfig
  let file ← readRunFile path
  let environment ← ExceptT.lift Host.environment
  let plan := file.plan (if usesEnvironment then some environment else none)
  let (progress, result) ← ExceptT.lift (runPlan plan)
  writeReport progress.cases report
  Act.orFail (.failedTest plan.test) (return result)
  return s!"Multi-stage test '{plan.test}' succeeded.\n"

/-- Prints the links of the test of a run file. -/
def requires (path : String) : Act String := do
  let file ← readRunFile path
  return Yaml.document (.sequence ((file.config.requirements file.build).map Link.codec.print))

/-- Carries out a command. -/
def perform (invocation : Invocation) : Program Host Outcome :=
  match invocation.command with
  | .run path report usesEnvironment =>
    (run invocation.kubeconfig path report usesEnvironment).outcome
  | .requires path => (requires path).outcome

/-- Carries out a command line. -/
def execute (arguments : List String) : Program Host Outcome :=
  match parse arguments with
  | .error error => return { exitCode := 2, complaint := error.message ++ "\n" ++ usage }
  | .ok .version => return { exitCode := 0, output := version }
  | .ok .help => return { exitCode := 0, output := usage }
  | .ok (.invoke invocation) => perform invocation

end StagedTest.CommandLine
