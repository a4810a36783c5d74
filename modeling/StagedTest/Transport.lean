import StagedTest.Cluster
import StagedTest.Http

/-!
# The way to a cluster

A client of a cluster exchanges requests for answers, and waits. Both may be cut short by a
deadline, and a wait may be cut short by a token.
-/
namespace StagedTest

/-- What a client asks of the way to the cluster. Times are in milliseconds. -/
inductive TransportCall
  /-- Send a request and wait for the answer. -/
  | exchange (request : Http.Request)
  /-- Send a request and wait for the answer up to a deadline. -/
  | exchangeBefore (deadline : Nat) (request : Http.Request)
  /-- Wait, but not beyond a deadline. -/
  | pauseBefore (deadline duration : Nat)
  /-- Wait, unless a token is called off. -/
  | pauseUnlessCancelled (token : Token) (duration : Nat)
  /-- Find out whether a token is called off. -/
  | isCancelled (token : Token)
  /-- Find out the time. -/
  | now

/-- What comes back. An exchange that is cut short has no result, and a pause tells whether it
lasted its whole time. -/
def TransportCall.Answer : TransportCall → Type
  | .exchange _ => Except CallFailure Http.Response
  | .exchangeBefore .. => Option (Except CallFailure Http.Response)
  | .pauseBefore .. => Bool
  | .pauseUnlessCancelled .. => Unit
  | .isCancelled _ => Bool
  | .now => Nat

/-- The way to a cluster. -/
def Transport : Interface := ⟨TransportCall, TransportCall.Answer⟩

namespace Transport

/-- Sends a request and waits for the answer. -/
def exchange (request : Http.Request) : Program Transport (Except CallFailure Http.Response) :=
  Program.ask (I := Transport) (.exchange request)

/-- Sends a request and waits for the answer up to a deadline. -/
def exchangeBefore (deadline : Nat) (request : Http.Request) :
    Program Transport (Option (Except CallFailure Http.Response)) :=
  Program.ask (I := Transport) (.exchangeBefore deadline request)

/-- Waits, but not beyond a deadline. -/
def pauseBefore (deadline duration : Nat) : Program Transport Bool :=
  Program.ask (I := Transport) (.pauseBefore deadline duration)

/-- Waits, unless a token is called off. -/
def pauseUnlessCancelled (token : Token) (duration : Nat) : Program Transport Unit :=
  Program.ask (I := Transport) (.pauseUnlessCancelled token duration)

/-- Finds out whether a token is called off. -/
def isCancelled (token : Token) : Program Transport Bool :=
  Program.ask (I := Transport) (.isCancelled token)

/-- Finds out the time. -/
def now : Program Transport Nat := Program.ask (I := Transport) .now

end Transport

end StagedTest
