import PodTail.Session

/-!
# Frames from a client

`Frame.signal` is what a session is told of a frame. The contents do not matter: a text, some bytes,
a ping and a pong are all a `Signal.message`, unless the payload is longer than allowed. A frame
that is too long is a failure of the socket.
-/

set_option autoImplicit false

namespace PodTail

/-- The kinds of frames. -/
inductive Frame where
  | text
  | binary
  | ping
  | pong
  | close
  deriving DecidableEq, Repr

namespace Frame

/-- How many bytes a ping or a pong may carry. -/
def controlLimit : Nat := 125

/-- How many bytes a text or a binary frame may carry. -/
def payloadLimit : Nat := 16777216

/-- What a session sees of a frame with a payload of so many bytes. -/
def signal (f : Frame) (length : Nat) : Session.Signal :=
  match f with
  | .close => .close
  | .ping | .pong =>
    if controlLimit < length then
      .failed "WebSocket protocol error: Control frame too big (payload must be 125 bytes or less)"
    else .message
  | .text | .binary =>
    if payloadLimit < length then
      .failed ("Space limit exceeded: Message too long: " ++ toString length ++ " > "
        ++ toString payloadLimit)
    else .message

end Frame

end PodTail
