import PodTail.Options
import PodTail.Service.Basic

/-!
# Start and stop

`Options.settings` takes over what the options of the command line set, `Service.listen` is what the
service notes when it begins to listen, and `Service.interrupt` is its end: the shutdown token is
cancelled, which nothing has done before.
-/

set_option autoImplicit false

namespace PodTail

/-- What the options set. -/
def Options.settings (o : Options) : Settings :=
  ⟨some o.tailLines, o.throttleMs, o.cappLabel, o.tokenHeader⟩

namespace Service

/-- Begins to listen, where `granted` is what the network says to it: what is noted, or why it
cannot. -/
def listen (address : SocketAddress) (granted : Except String Unit) : Except String (List Event) :=
  match granted with
  | .ok () => .ok [.serverStarting address.text]
  | .error reason => .error ("Failed to bind " ++ address.text ++ ": " ++ reason)

/-- Somebody interrupts the service. -/
def interrupt (s : Service) : Service × List Event :=
  ((s.step .shutdown).1, [.serverStopping])

end Service

end PodTail
