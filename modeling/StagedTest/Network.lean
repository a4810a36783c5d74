import StagedTest.Transport

/-!
# Scripted networks

A way to a cluster that answers from a script, on a clock that stands still except where
something waits. It writes down the requests that it gets.
-/
namespace StagedTest

/-- A scripted answer. -/
structure ScriptedAnswer where
  /-- What is answered. -/
  response : Http.Response
  /-- How long the answer takes. -/
  delay : Nat := 0
  /-- Whether the wait for a pod is called off with the answer. -/
  cancels : Bool := false
deriving Inhabited

/-- A network with a script and a clock. -/
structure Network where
  /-- The time. -/
  clock : Nat := 0
  /-- The answers to come. -/
  script : List ScriptedAnswer := []
  /-- The answer that comes for ever after those. -/
  forever : ScriptedAnswer
  /-- Whether the wait was called off. -/
  cancelled : Bool := false
  /-- When the wait is called off. -/
  cancelTime : Option Nat := none
  /-- The requests so far. -/
  requests : List Http.Request := []

namespace Network

/-- Something that happens in a network. -/
abbrev Act (α : Type) : Type := StateM Network α

/-- Whether the wait is called off by now. -/
def isCancelled (network : Network) : Bool :=
  network.cancelled || network.cancelTime.any (· ≤ network.clock)

/-- The next answer of the script. -/
def next (network : Network) : ScriptedAnswer := network.script.headD network.forever

/-- Takes a request. -/
def accept (network : Network) (request : Http.Request) : Network :=
  { network with script := network.script.tail, requests := network.requests ++ [request] }

/-- Gives an answer after its time. -/
def deliver (network : Network) (answer : ScriptedAnswer) : Network :=
  { network with
    clock := network.clock + answer.delay
    cancelled := network.cancelled || answer.cancels }

/-- The time at which a pause is over that ends early when the wait is called off. -/
def wakeTime (network : Network) (duration : Nat) : Nat :=
  if network.isCancelled then network.clock
  else
    match network.cancelTime with
    | some time => min time (network.clock + duration)
    | none => network.clock + duration

/-- Answers what is asked of the way to a cluster. -/
def handler : Handler Transport Network
  | .exchange request => fun network =>
    let answer := network.next
    (.ok answer.response, (network.accept request).deliver answer)
  | .exchangeBefore deadline request => fun network =>
    let answer := network.next
    let network := network.accept request
    if network.clock + answer.delay < deadline then
      (some (.ok answer.response), network.deliver answer)
    else (none, { network with clock := deadline })
  | .pauseBefore deadline duration => fun network =>
    if network.clock + duration ≤ deadline then
      (true, { network with clock := network.clock + duration })
    else (false, { network with clock := deadline })
  | .pauseUnlessCancelled _ duration => fun network =>
    ((), { network with clock := network.wakeTime duration })
  | .isCancelled _ => fun network => (network.isCancelled, network)
  | .now => fun network => (network.clock, network)

end Network

end StagedTest
