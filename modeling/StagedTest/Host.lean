import StagedTest.StringMap
import StagedTest.Transport

/-!
# Hosts

A host is where a command is given: it has files, the variables that surround the command, and a
way to a cluster.
-/
namespace StagedTest

/-- What a command asks of its host. -/
inductive HostCall
  /-- Read a file. -/
  | readFile (path : String)
  /-- Give a file its content. -/
  | writeFile (path content : String)
  /-- Find out the variables. -/
  | environment
  /-- Ask the way to the cluster. -/
  | transport (asked : TransportCall)

/-- What comes back. -/
def HostCall.Answer : HostCall → Type
  | .readFile _ => Except FileFailure String
  | .writeFile .. => Except FileFailure Unit
  | .environment => StringMap String
  | .transport asked => asked.Answer

/-- Where a command is given. -/
def Host : Interface := ⟨HostCall, HostCall.Answer⟩

namespace Host

/-- Reads a file. -/
def readFile (path : String) : Program Host (Except FileFailure String) :=
  Program.ask (I := Host) (.readFile path)

/-- Gives a file its content. -/
def writeFile (path content : String) : Program Host (Except FileFailure Unit) :=
  Program.ask (I := Host) (.writeFile path content)

/-- Finds out the variables. -/
def environment : Program Host (StringMap String) := Program.ask (I := Host) .environment

/-- Asks the way to the cluster. -/
def transport (asked : TransportCall) : Program Host asked.Answer :=
  Program.ask (I := Host) (.transport asked)

end Host

end StagedTest
