import PodTail.Event

/-!
# The relay

The loop that takes a line from the log, writes it to the client as a text frame and rests. It is a
state machine over its waits: `Stage` is what the relay waits for, `Arm` what a wait ends with, and
`State.take` the next state with what is noted.

`State.enter` checks the token first. Whenever the relay would go on to another wait and the token
is cancelled, it ends as `cancelled` instead. So a line that is taken while the token is being
cancelled is not written any more. Within a wait the relay does not look at its token: a write that
is done without waiting is not interrupted.

A read error is written to the client as an error frame (`errorFrame`), and the relay ends as
`readError` whether that write succeeds or fails. If the write of a line fails, the relay ends as
`transportFailure` and writes nothing more.
-/

set_option autoImplicit false

namespace PodTail

namespace Relay

/-- The text frame that reports a failure. -/
def errorFrame (message : String) : String :=
  "error: " ++ message

/-- What is read from a log. -/
inductive Item where
  | line (text : String)
  | failure (reason : String)
  | finish
  deriving DecidableEq, Repr

/-- What a write carries. -/
inductive Outgoing where
  | line (text : String)
  | failure (reason : String)
  deriving DecidableEq, Repr

/-- The frame of a write, for the client of `t`. -/
def Outgoing.frame (t : Target) : Outgoing → String
  | .line text => t.frame text
  | .failure reason => errorFrame reason

/-- Where a relay waits. -/
inductive Stage where
  | reading
  | writing (o : Outgoing)
  | resting
  | ended (result : RelayEnd)
  deriving DecidableEq, Repr

/-- What a wait ends with. -/
inductive Arm where
  | cancelled
  | item (i : Item)
  | written
  | writeFailed (reason : String)
  | rested
  deriving DecidableEq, Repr

/-- A relay: where it waits, and how many lines it has written. -/
structure State where
  stage : Stage
  forwarded : Nat
  deriving DecidableEq, Repr

namespace State

/-- The end of a relay, if it has ended. -/
def result? (s : State) : Option RelayEnd :=
  match s.stage with
  | .ended result => some result
  | _ => none

/-- Moves to a stage, unless the token is cancelled: then the relay ends. An end stays. -/
def enter (cancelled : Bool) (stage : Stage) (forwarded : Nat) : State :=
  match stage, cancelled with
  | .ended result, _ => ⟨.ended result, forwarded⟩
  | _, true => ⟨.ended .cancelled, forwarded⟩
  | stage, false => ⟨stage, forwarded⟩

/-- A relay that begins. -/
def start (cancelled : Bool) : State :=
  enter cancelled .reading 0

/-- What follows when a wait ends; an arm that is not waited for changes nothing. -/
def next (cancelled : Bool) (s : State) (arm : Arm) : State :=
  match s.stage, arm with
  | .ended _, _ => s
  | _, .cancelled => enter cancelled (.ended .cancelled) s.forwarded
  | .reading, .item (.line text) => enter cancelled (.writing (.line text)) s.forwarded
  | .reading, .item (.failure reason) => enter cancelled (.writing (.failure reason)) s.forwarded
  | .reading, .item .finish => enter cancelled (.ended .exhausted) s.forwarded
  | .writing (.line _), .written => enter cancelled .resting (s.forwarded + 1)
  | .writing (.line _), .writeFailed _ => enter cancelled (.ended .transportFailure) s.forwarded
  | .writing (.failure _), .written => enter cancelled (.ended .readError) s.forwarded
  | .writing (.failure _), .writeFailed _ => enter cancelled (.ended .readError) s.forwarded
  | .resting, .rested => enter cancelled .reading s.forwarded
  | _, _ => s

/-- What is noted when a wait ends so. -/
def notes (s : State) (arm : Arm) : List Event :=
  match s.stage, arm with
  | .reading, .item (.failure reason) => [.readFailed reason]
  | .writing (.line _), .writeFailed reason => [.writeFailed reason]
  | _, _ => []

/-- What is noted on the way from one state to the next: the end is noted once. -/
def closing (s s' : State) : List Event :=
  match s.result?, s'.result? with
  | none, some result => [.relayFinished s'.forwarded result]
  | _, _ => []

/-- Ends a wait: the next state, and what is noted. -/
def take (cancelled : Bool) (s : State) (arm : Arm) : State × List Event :=
  let s' := s.next cancelled arm
  (s', s.notes arm ++ s.closing s')

end State

end Relay

end PodTail
