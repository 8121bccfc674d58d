import PodTail.Session

/-!
# The service

A `Service` is any number of sessions and one shutdown token. `Service.step` gives an input to one
session, begins a session or cancels the token. The token is the only thing that sessions share:
each of them sees it in its step, and none of them changes it.
-/

set_option autoImplicit false

namespace PodTail

/-- What a service is set to. -/
structure Settings where
  /-- How much of a log's past is sent; `none` is all of it. -/
  tailLines : Option Int
  throttleMs : Nat
  cappLabel : String
  tokenHeader : String
  deriving DecidableEq, Repr

/-- What a service is set to unless somebody says otherwise. -/
def Settings.standard : Settings := ⟨some 10, 1000, "rcs.dana.io/parent-capp", "Sec-WebSocket-Protocol"⟩

/-- The sessions of a service and its shutdown token. -/
structure Service where
  settings : Settings
  shutdown : Bool
  sessions : List Session

namespace Service

/-- Something that comes to a service. -/
inductive Input where
  /-- A request that has been accepted. -/
  | accept (t : Target)
  /-- Something that comes to one session. -/
  | session (i : Nat) (input : Session.Input)
  | shutdown

/-- A service without sessions. -/
def start (settings : Settings) : Service := ⟨settings, false, []⟩

/-- Takes an input; what is done is told with the number of the session that does it. -/
def step (s : Service) : Input → Service × List (Nat × Session.Act)
  | .accept t =>
    let (session, acts) :=
      Session.start s.settings.cappLabel s.settings.tailLines s.shutdown t
    ({ s with sessions := s.sessions ++ [session] }, acts.map (s.sessions.length, ·))
  | .session i input =>
    match s.sessions[i]? with
    | none => (s, [])
    | some session =>
      let (session, acts) := session.step s.shutdown input
      ({ s with sessions := s.sessions.set i session }, acts.map (i, ·))
  | .shutdown => ({ s with shutdown := true }, [])

/-- Takes inputs in turn. -/
def run (s : Service) : List Input → Service × List (Nat × Session.Act)
  | [] => (s, [])
  | i :: rest =>
    let (s, acts) := s.step i
    let (s, more) := s.run rest
    (s, acts ++ more)

end Service

end PodTail
