import PodTail.Lookup
import PodTail.Relay.Basic

/-!
# Log sessions

A `Session` is what happens on one WebSocket from its opening to its close, as a state machine:
`Session.step` takes one `Input` and gives the next session and the `Act`s that it does. An input
that the session does not wait for changes nothing, so inputs may come in any order.

The stages are run through in order. In `looking` the look-up is followed (`follow`). If it is
refused, the client is told in one error frame (`apologising`), and the socket is closed. If a log
is found, it is relayed (`relaying`) while a watcher reads what the client sends. Of that only the
client's leaving matters (`Signal.leaving`); it cancels the session's token. A cancelled shutdown
token counts as a cancelled token.

`endRelay` releases the log first. What follows, the wait for the watcher (`parting`), the close of
the socket (`closing`) and the note that the session has ended, comes behind it, so neither a silent
client nor a close that never completes keeps a log open.
-/

set_option autoImplicit false

namespace PodTail

namespace Session

/-- Something a session does. -/
inductive Act where
  | ask (q : Lookup.Question)
  /-- A log has been opened for the session. -/
  | opened
  | release (source : OpenLog)
  /-- Begins to send a text frame. -/
  | send (frame : String)
  /-- Begins to close the socket. -/
  | close
  | note (e : Event)
  deriving Repr

/-- What a client does, as far as its session looks at it. -/
inductive Signal where
  /-- A text, some bytes, a ping or a pong. -/
  | message
  | close
  /-- Nothing more can come. -/
  | ended
  | failed (reason : String)
  deriving DecidableEq, Repr

/-- Something that comes to a session. -/
inductive Input where
  | listed (answer : Except ClusterFailure (List Pod))
  | got (answer : Except ClusterFailure Pod)
  | opened (answer : Except ClusterFailure OpenLog)
  | relay (arm : Relay.Arm)
  /-- What the session does on the socket besides relaying is done, well or not. -/
  | socketDone
  | client (s : Signal)
  /-- The watcher sees that the token is cancelled. -/
  | watcherCalled

/-- Where a session is. -/
inductive Stage where
  | looking (d : Lookup OpenLog)
  /-- Tells the client why there is no log. -/
  | apologising
  | relaying (r : Relay.State) (source : OpenLog)
  /-- Waits for the watcher, the relay having ended. -/
  | parting (result : RelayEnd)
  /-- Closes the socket; there is a result if there was a relay. -/
  | closing (result : Option RelayEnd)
  | over

/-- The reader of what the client sends. -/
inductive Watcher where
  | asleep
  | watching
  | done
  deriving DecidableEq, Repr

end Session

/-- A session. -/
structure Session where
  target : Target
  stage : Session.Stage
  /-- Its own token; a cancelled shutdown token counts as well. -/
  cancelled : Bool
  watcher : Session.Watcher

namespace Session

/-! ## The look-up -/

/-- The text frame for a log that could not be opened. -/
def apology (t : Target) (why : StreamFailure) : String :=
  Relay.errorFrame ("Error streaming " ++ t.kind.name ++ " logs: " ++ why.message)

/-- Closes the socket once the watcher is done. -/
def part (s : Session) (result : RelayEnd) : Session × List Act :=
  if s.watcher = .done then ({ s with stage := .closing (some result) }, [.close])
  else ({ s with stage := .parting result }, [])

/-- Ends the relay: the log goes first. -/
def endRelay (s : Session) (source : OpenLog) (before after : List Event) (result : RelayEnd) :
    Session × List Act :=
  let (s, acts) := { s with cancelled := true }.part result
  (s, before.map .note ++ .release source :: (after.map .note ++ acts))

/-- Begins to relay a log that has been opened. -/
def beginRelay (shutdown : Bool) (s : Session) (source : OpenLog) : Session × List Act :=
  let s := { s with watcher := .watching }
  let r := Relay.State.start (s.cancelled || shutdown)
  match r.stage with
  | .ended result => s.endRelay source [] [.relayFinished r.forwarded result] result
  | _ => ({ s with stage := .relaying r source }, [])

/-- Goes on with a look-up. -/
def follow (shutdown : Bool) (s : Session) (d : Lookup OpenLog) : Session × List Act :=
  let (events, d) := d.skim
  let noted := events.map Act.note
  match d with
  | .found source =>
    let (s, acts) := s.beginRelay shutdown source
    (s, noted ++ acts)
  | .refused why =>
    ({ s with stage := .apologising },
      noted ++ [.note (.sessionFailed s.target why), .send (apology s.target why)])
  | d => ({ s with stage := .looking d }, noted ++ (d.question?.map Act.ask).toList)

/-- A session that begins. -/
def start (label : String) (tail : Option Int) (shutdown : Bool) (t : Target) :
    Session × List Act :=
  let s : Session := ⟨t, .apologising, false, .asleep⟩
  let (s, acts) := s.follow shutdown (Lookup.openTarget label tail t)
  (s, .note (.sessionStarted t) :: acts)

/-! ## The relay -/

/-- Ends a wait of the relay. A relay that waits for the log or rests looks at its token first. -/
def relayStep (shutdown : Bool) (s : Session) (r : Relay.State) (source : OpenLog)
    (arm : Relay.Arm) : Session × List Act :=
  let token := s.cancelled || shutdown
  let arm :=
    match r.stage with
    | .writing _ => arm
    | _ => if token then .cancelled else arm
  if arm = .cancelled && !token then (s, [])
  else
    let r' := r.next token arm
    if r' = r then (s, [])
    else
      match r'.stage with
      | .ended result => s.endRelay source (r.notes arm) (r.closing r') result
      | .writing o =>
        ({ s with stage := .relaying r' source },
          (r.notes arm).map .note ++ [.send (o.frame s.target)])
      | _ => ({ s with stage := .relaying r' source }, (r.notes arm).map .note)

/-! ## The watcher -/

/-- What the watcher notes when the client leaves; nothing if it does not. -/
def Signal.leaving : Signal → Option (List Event)
  | .message => none
  | .close => some [.clientLeft]
  | .ended => some [.clientLeft]
  | .failed reason => some [.socketReadFailed reason, .clientLeft]

/-- The watcher is done. -/
def watcherDone (s : Session) : Session × List Act :=
  let s := { s with watcher := .done }
  match s.stage with
  | .parting result => s.part result
  | _ => (s, [])

/-- The watcher reads what the client sent. -/
def clientStep (s : Session) (signal : Signal) : Session × List Act :=
  match s.watcher, signal.leaving with
  | .watching, some events =>
    let (s, acts) := { s with cancelled := true }.watcherDone
    (s, events.map .note ++ acts)
  | _, _ => (s, [])

/-! ## One step -/

/-- Takes an input. -/
def step (shutdown : Bool) (s : Session) (i : Input) : Session × List Act :=
  match i, s.stage with
  | .listed answer, .looking (.list _ _ next) => s.follow shutdown (next answer)
  | .got answer, .looking (.get _ _ next) => s.follow shutdown (next answer)
  | .opened answer, .looking (.log _ _ _ _ next) =>
    let (s, acts) := s.follow shutdown (next answer)
    (s, (match answer with | .ok _ => [.opened] | .error _ => []) ++ acts)
  | .relay arm, .relaying r source => s.relayStep shutdown r source arm
  | .socketDone, .apologising => ({ s with stage := .closing none }, [.close])
  | .socketDone, .closing none => ({ s with stage := .over }, [])
  | .socketDone, .closing (some result) =>
    ({ s with stage := .over }, [.note (.sessionEnded s.target result)])
  | .client signal, _ => s.clientStep signal
  | .watcherCalled, _ =>
    if s.watcher = .watching && (s.cancelled || shutdown) then s.watcherDone else (s, [])
  | _, _ => (s, [])

end Session

end PodTail
