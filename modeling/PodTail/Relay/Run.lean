import PodTail.Feed
import PodTail.Relay.Basic

/-!
# Timed runs of a relay

`Run.step` puts a relay to work against a `Setup`: a log that delivers over time, a client that
takes each frame in three phases (`Plan`, laid out as a list of `Move`s), a throttle, and a token
that the log, the client or somebody outside may cancel. Time is a number of milliseconds and moves
only where the relay waits (`Run.wait`). A step is small enough that whatever holds of `Run.after s
n` for every `n` holds at every moment.

The log and the plans are functions of a position, so a log may be endless and a run need not end.
`Run.observe` follows a run up to a time limit. `Script` is a setup given by arrays, whose runs end
or get stuck within `Script.bound` steps.

`Setup.wake` decides how a wait ends. A wait of length zero cannot be interrupted, and a
cancellation from outside that falls on the very end of a wait comes before that end.
-/

set_option autoImplicit false

namespace PodTail

namespace Relay

/-! ## What the relay works with -/

/-- The phases of a write: the client becomes ready, takes the frame, and has it delivered. -/
inductive Phase where
  | ready
  | send
  | flush
  deriving DecidableEq, Repr

/-- How one write goes. -/
structure Plan where
  /-- The phase that cancels the token when it begins; `send` does so once the frame is taken. -/
  cancelIn : Option Phase
  readyWait : Nat
  flushWait : Nat
  /-- The phase, ready or flush, that never ends. -/
  hangIn : Option Phase
  /-- The phase that fails, at its end. -/
  failIn : Option (Phase × String)
  deriving DecidableEq, Repr

/-- A write that goes through at once. -/
def Plan.smooth : Plan := ⟨none, 0, 0, none, none⟩

/-- One thing that happens in the course of a write. -/
inductive Move where
  | cancel
  | wait (ms : Nat)
  | hang
  | record
  | fail (reason : String)
  deriving DecidableEq, Repr

namespace Plan

/-- A phase of waiting: cancel, wait, hang, fail. -/
def waiting (p : Plan) (phase : Phase) (ms : Nat) : List Move :=
  (if p.cancelIn = some phase then [.cancel] else [])
    ++ [.wait ms]
    ++ (if p.hangIn = some phase then [.hang] else [])
    ++ (match p.failIn with
        | some (at', reason) => if at' = phase then [.fail reason] else []
        | none => [])

/-- The phase in which the frame is taken, or the write fails. -/
def sending (p : Plan) : List Move :=
  match p.failIn with
  | some (.send, reason) => [.fail reason]
  | _ => .record :: (if p.cancelIn = some .send then [.cancel] else [])

/-- What happens in the course of a write, in order. -/
def moves (p : Plan) : List Move :=
  p.waiting .ready p.readyWait ++ p.sending ++ p.waiting .flush p.flushWait

end Plan

/-- What a relay is put to work with. -/
structure Setup where
  target : Target
  throttle : Nat
  /-- What the reader meets at each position; from the first `none` on the log has ended. -/
  source : Nat → Option Feed.Step
  /-- How each write goes, from the first. -/
  plan : Nat → Plan
  cancelledBefore : Bool
  /-- When the token is cancelled from outside. -/
  cancelAt : Option Nat

/-! ## The run -/

/-- A run so far. -/
structure Run where
  now : Nat
  cancelled : Bool
  relay : State
  /-- How far the log has been read. -/
  taken : Nat
  /-- How many writes have begun. -/
  begun : Nat
  /-- What is still to happen in the write under way. -/
  moves : List Move
  /-- The frames the client took, with their times. -/
  frames : List (Nat × String)
  events : List Event

/-- How a wait ends: when it is over, when the token is cancelled, or not at all. -/
inductive Wake where
  | over (now : Nat)
  | called (now : Nat)
  | never

/-- How a wait ends that would be over at `until?`. -/
def Setup.wake (s : Setup) (now : Nat) (cancelled : Bool) (until? : Option Nat) : Wake :=
  if until? = some now then .over now
  else if cancelled then .called now
  else
    match s.cancelAt, until? with
    | some t, some u => if t ≤ u then .called (max now t) else .over u
    | some t, none => .called (max now t)
    | none, some u => .over u
    | none, none => .never

namespace Run

/-- A run that begins. -/
def start (s : Setup) : Run :=
  let relay := State.start s.cancelledBefore
  let events : List Event :=
    match relay.result? with
    | some result => [.relayFinished 0 result]
    | none => []
  ⟨0, s.cancelledBefore, relay, 0, 0, [], [], events⟩

/-- The end of the run, if it has ended. -/
def result? (r : Run) : Option RelayEnd :=
  r.relay.result?

/-- Ends the relay's wait. Where that begins a write, the write's plan is laid out. -/
def take (s : Setup) (arm : Arm) (r : Run) : Run :=
  let (relay, notes) := r.relay.take r.cancelled arm
  let r' := { r with relay, events := r.events ++ notes }
  match relay.stage with
  | .writing _ => { r' with begun := r.begun + 1, moves := (s.plan r.begun).moves }
  | _ => { r' with moves := [] }

/-- Waits, and goes on as `after` says if nobody calls the relay off. -/
def wait (s : Setup) (until? : Option Nat) (r : Run) (after : Run → Run) : Run :=
  match s.wake r.now r.cancelled until? with
  | .over now => after { r with now }
  | .called now => take s .cancelled { r with now, cancelled := true }
  | .never => r

/-- One step of reading. -/
def read (s : Setup) (r : Run) : Run :=
  match s.source r.taken with
  | none => take s (.item .finish) r
  | some (.line text) => take s (.item (.line text)) { r with taken := r.taken + 1 }
  | some (.failure reason) => take s (.item (.failure reason)) { r with taken := r.taken + 1 }
  | some (.wait ms) => wait s (some (r.now + ms)) r fun r => { r with taken := r.taken + 1 }
  | some .silence => wait s none r id
  | some .cancel => { r with taken := r.taken + 1, cancelled := true }

/-- One step of a write of `o`. -/
def write (s : Setup) (o : Outgoing) (r : Run) : Run :=
  match r.moves with
  | [] => take s .written r
  | .cancel :: more => { r with moves := more, cancelled := true }
  | .wait ms :: more => wait s (some (r.now + ms)) r fun r => { r with moves := more }
  | .hang :: _ => wait s none r id
  | .record :: more =>
    { r with moves := more, frames := r.frames ++ [(r.now, o.frame s.target)] }
  | .fail reason :: _ => take s (.writeFailed reason) r

/-- One step. A run that has ended, or waits for what never comes, stays as it is. -/
def step (s : Setup) (r : Run) : Run :=
  match r.relay.stage with
  | .reading => read s r
  | .writing o => write s o r
  | .resting => wait s (some (r.now + s.throttle)) r (take s .rested)
  | .ended _ => r

/-- A run after `n` steps. -/
def after (s : Setup) : Nat → Run
  | 0 => start s
  | n + 1 => step s (after s n)

/-- Follows a run for at most `n` steps, and not past the time `limit`. -/
def observe (s : Setup) (limit : Nat) : Nat → Run → Run
  | 0, r => r
  | n + 1, r =>
    match r.result? with
    | some _ => r
    | none =>
      let r' := step s r
      if r'.now ≤ limit then observe s limit n r' else { r with now := limit }

end Run

/-! ## Finite runs -/

/-- What a relay is put to work with, given as lists: the log ends after its last step, and writes
past the last plan are smooth. -/
structure Script where
  target : Target
  throttle : Nat
  source : Array Feed.Step
  plans : Array Plan
  cancelledBefore : Bool
  cancelAt : Option Nat

namespace Script

/-- The script as functions of a position. -/
def setup (s : Script) : Setup where
  target := s.target
  throttle := s.throttle
  source := fun i => s.source[i]?
  plan := fun i => s.plans[i]?.getD .smooth
  cancelledBefore := s.cancelledBefore
  cancelAt := s.cancelAt

/-- More steps than a run of the script can take before it ends or waits for ever: every step of
the log costs one step to read, at most eleven to write and one to rest. -/
def bound (s : Script) : Nat :=
  16 * (s.source.size + 1)

/-- The run of a script, watched until `limit`. -/
def run (s : Script) (limit : Nat) : Run :=
  let r := Run.observe s.setup limit s.bound (Run.start s.setup)
  match r.result? with
  | some _ => r
  | none => { r with now := limit }

end Script

end Relay

end PodTail
