/-!
# What a client asks for

`Target` is a log request as it came in, before the cluster is asked: a namespace and either a pod
or a workload (a *Capp*), whose pods are found by their label. `Endpoint` is what it is resolved
to, one container of one pod. `Target.frame` is the text frame for a line of the log. It starts with
the kind and the name of the target (`lead`), so a client can take the prefix off again.
-/

set_option autoImplicit false

namespace PodTail

/-- The kind of object a request names. -/
inductive Kind where
  | pod
  | capp
  deriving DecidableEq, Repr

/-- The word for a kind in frames, events and messages. -/
def Kind.name : Kind → String
  | .pod => "Pod"
  | .capp => "Capp"

/-- A log request, before any look-up. -/
structure Target where
  /-- The namespace the pods live in. -/
  ns : String
  kind : Kind
  /-- The pod's name, or the workload's. -/
  identifier : String
  /-- The pod wanted among a workload's. -/
  pod : Option String
  container : Option String
  deriving DecidableEq, Repr

/-- The container a session reads from. -/
structure Endpoint where
  pod : String
  container : String
  deriving DecidableEq, Repr

namespace Target

/-- An empty choice is no choice: a query such as `?container=` arrives as an empty text. -/
def chosen (value : Option String) : Option String :=
  value.filter (· ≠ "")

/-- A request for one pod. -/
def ofPod (ns name : String) (container : Option String) : Target :=
  ⟨ns, .pod, name, none, chosen container⟩

/-- A request for a workload, of which one pod may be named. -/
def ofCapp (ns name : String) (pod container : Option String) : Target :=
  ⟨ns, .capp, name, chosen pod, chosen container⟩

/-- What every data frame of this request starts with. -/
def lead (t : Target) : String :=
  t.kind.name ++ ": " ++ t.identifier ++ " line: "

/-- The text frame for one log line. -/
def frame (t : Target) (line : String) : String :=
  t.lead ++ line

end Target

end PodTail
