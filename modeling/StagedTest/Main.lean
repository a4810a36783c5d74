import StagedTest.CommandLine

/-!
# The command

The command line on the host that the process runs on. Only what a host is asked for happens
here. The process has no connection of its own, so that every exchange finds the cluster
unreachable; pauses and the time are real, and nothing calls a test off.
-/
namespace StagedTest.Main

/-- Why a file could not be used. -/
def failureOf : IO.Error → FileFailure
  | .noFileOrDirectory .. => .missing
  | .inappropriateType _ _ details =>
    if details.toLower = "not a directory" then .notDirectory else .isDirectory
  | other => .other (toString other)

/-- Reads a file. -/
def readFile (path : String) : IO (Except FileFailure String) := do
  match ← (IO.FS.readBinFile path).toBaseIO with
  | .error failure => return .error (failureOf failure)
  | .ok bytes =>
    match String.fromUTF8? bytes with
    | some text => return .ok text
    | none => return .error .notText

/-- Gives a file its content. -/
def writeFile (path content : String) : IO (Except FileFailure Unit) := do
  match ← (IO.FS.writeFile path content).toBaseIO with
  | .error failure => return .error (failureOf failure)
  | .ok () => return .ok ()

/-- The variables of the process, as the system lists them. -/
def environment : IO (StringMap String) := do
  match ← readFile "/proc/self/environ" with
  | .error _ => return .empty
  | .ok text => return .ofList ((Text.parts '\x00' text).filterMap (Text.splitAt? '='))

/-- Answers what is asked of the way to a cluster. -/
def transport : (asked : TransportCall) → IO asked.Answer
  | .exchange _ => return .error .unreachable
  | .exchangeBefore _ _ => return some (.error .unreachable)
  | .pauseBefore deadline duration => do
    let now ← IO.monoMsNow
    if now + duration ≤ deadline then
      IO.sleep (UInt32.ofNat duration)
      return true
    else
      IO.sleep (UInt32.ofNat (deadline - now))
      return false
  | .pauseUnlessCancelled _ duration => IO.sleep (UInt32.ofNat duration)
  | .isCancelled _ => return false
  | .now => IO.monoMsNow

/-- Answers what is asked of the host. -/
def host : (asked : HostCall) → IO asked.Answer
  | .readFile path => readFile path
  | .writeFile path content => writeFile path content
  | .environment => environment
  | .transport asked => transport asked

end StagedTest.Main

open StagedTest in
/-- Carries out the command line that the process was started with. -/
def main (arguments : List String) : IO UInt32 := do
  let outcome ← (CommandLine.execute arguments).perform Main.host
  IO.print outcome.output
  IO.eprint outcome.complaint
  return outcome.exitCode
