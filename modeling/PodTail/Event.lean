import PodTail.Failure
import PodTail.Target

/-!
# Events

What the service notes while it works. Each event has a level, a fixed message and named fields,
all of them texts.
-/

set_option autoImplicit false

namespace PodTail

/-- Why a relay stopped. -/
inductive RelayEnd where
  /-- The log ended. -/
  | exhausted
  /-- The client left or the service stops. -/
  | cancelled
  /-- Reading the log failed, and the client was told. -/
  | readError
  /-- Writing to the client failed. -/
  | transportFailure
  deriving DecidableEq, Repr

/-- The word for an end. -/
def RelayEnd.name : RelayEnd → String
  | .exhausted => "Exhausted"
  | .cancelled => "Cancelled"
  | .readError => "UpstreamError"
  | .transportFailure => "TransportFailure"

/-- How much an event matters. -/
inductive Level where
  | debug
  | info
  | warn
  deriving DecidableEq, Repr

/-- The word for a level. -/
def Level.name : Level → String
  | .debug => "DEBUG"
  | .info => "INFO"
  | .warn => "WARN"

/-- Something worth noting. -/
inductive Event where
  | resolved (target : Target) (endpoint : Endpoint)
  | listed (ns selector : String) (count : Nat)
  | opened (ns : String) (endpoint : Endpoint)
  | readFailed (reason : String)
  | writeFailed (reason : String)
  | relayFinished (forwarded : Nat) (result : RelayEnd)
  | handshakeRejected (target : Target) (reason : String)
  | tokenMissing (target : Target)
  | sessionStarted (target : Target)
  | sessionFailed (target : Target) (failure : StreamFailure)
  | sessionEnded (target : Target) (result : RelayEnd)
  | socketReadFailed (reason : String)
  | clientLeft
  | serverStarting (address : String)
  | serverStopping
  deriving DecidableEq, Repr

namespace Event

/-- The level of an event. -/
def level : Event → Level
  | .resolved .. | .listed .. | .writeFailed .. | .relayFinished .. => .debug
  | .socketReadFailed .. | .clientLeft => .debug
  | .opened .. | .sessionStarted .. | .sessionEnded .. => .info
  | .serverStarting .. | .serverStopping => .info
  | .readFailed .. | .handshakeRejected .. | .tokenMissing .. | .sessionFailed .. => .warn

/-- The message of an event. -/
def message : Event → String
  | .resolved .. => "Resolved log target"
  | .listed .. => "Listed pods for selector"
  | .opened .. => "Opened log stream"
  | .readFailed .. => "Log stream read failed"
  | .writeFailed .. => "Client write failed"
  | .relayFinished .. => "Relay finished"
  | .handshakeRejected .. => "Rejected non-websocket log request"
  | .tokenMissing .. => "Log request without token"
  | .sessionStarted .. => "Log session started"
  | .sessionFailed .. => "Failed to open log session"
  | .sessionEnded .. => "Log session ended"
  | .socketReadFailed .. => "Client socket read failed"
  | .clientLeft => "Client disconnected"
  | .serverStarting .. => "Starting log stream server"
  | .serverStopping => "Shutting down, closing log sessions"

/-- The fields of an event. -/
def fields : Event → List (String × String)
  | .resolved t e =>
    [("namespace", t.ns), ("kind", t.kind.name), ("identifier", t.identifier),
      ("pod", e.pod), ("container", e.container)]
  | .listed ns selector count =>
    [("namespace", ns), ("selector", selector), ("count", toString count)]
  | .opened ns e => [("namespace", ns), ("pod", e.pod), ("container", e.container)]
  | .readFailed reason | .writeFailed reason | .socketReadFailed reason => [("error", reason)]
  | .relayFinished forwarded result =>
    [("forwarded", toString forwarded), ("end", result.name)]
  | .handshakeRejected t reason =>
    [("kind", t.kind.name), ("identifier", t.identifier), ("reason", reason)]
  | .tokenMissing t => [("identifier", t.identifier)]
  | .sessionStarted t =>
    [("namespace", t.ns), ("kind", t.kind.name), ("identifier", t.identifier)]
  | .sessionFailed t failure =>
    [("namespace", t.ns), ("identifier", t.identifier), ("error", failure.message)]
  | .sessionEnded t result =>
    [("namespace", t.ns), ("identifier", t.identifier), ("end", result.name)]
  | .clientLeft | .serverStopping => []
  | .serverStarting address => [("addr", address)]

/-- The event as a document, with its members in key order. -/
def document (e : Event) : Json :=
  .object ((("level", e.level.name) :: ("message", e.message) :: e.fields).foldl
    (fun members f => Json.insertMember f.1 (.text f.2) members) [])

end Event

end PodTail
