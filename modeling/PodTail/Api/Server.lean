import PodTail.Feed
import PodTail.Json.Printer
import PodTail.Net.Form
import PodTail.Net.Uri
import PodTail.Selector

/-!
# An API server in memory

`Server` is the other end of the requests. It keeps manifests by namespace and logs by pod and
container, and `Server.answer` answers an address from them, or as a `Disturbance` tells it to.
`Server.route?` matches the path by its pieces between the slashes, which are not decoded; any other
path is answered with `pathNotFound`.

The counters `opened` and `closed` are about the bodies of logs only. `serve` raises the first,
`close` the second.
-/

set_option autoImplicit false

namespace PodTail

namespace Api

/-! ## Answers -/

/-- What an answer carries. -/
inductive Body where
  | document (j : Json)
  | text (s : String)
  /-- A log, as it arrives. -/
  | log (arrivals : List Arrival)

/-- An answer. -/
structure Answer where
  status : Nat
  body : Body

/-- The kinds of questions. -/
inductive Kind where
  | list
  | get
  | log
  deriving DecidableEq, Repr

/-- What to answer instead, after the first `skip` questions of a kind. -/
structure Disturbance where
  skip : Nat
  /-- Nothing comes back, for a reason, or an answer that was not asked for. -/
  answer : Except String Answer

/-- The log of a container, in whichever namespace its pod lives. -/
structure Record where
  pod : String
  container : String
  arrivals : List Arrival

/-- The report on something that is not there. -/
def notFound (message : String) : Answer :=
  ⟨404, .document (.object [("apiVersion", .text "v1"), ("code", .int 404),
    ("kind", .text "Status"), ("message", .text message), ("metadata", .object []),
    ("reason", .text "NotFound"), ("status", .text "Failure")])⟩

/-- The report on a pod that is not there. -/
def podNotFound (name : String) : Answer :=
  notFound ("pods \"" ++ name ++ "\" not found")

/-- The report on a path that leads nowhere. -/
def pathNotFound : Answer :=
  notFound "the server could not find the requested resource"

/-- The log that nobody has written. -/
def unwritten : List Arrival := [.chunk (Utf8.bytes "fake logs\n")]

/-! ## The server -/

/-- An API server. -/
structure Server where
  /-- The manifests, each with its namespace. -/
  pods : List (String × Json)
  records : List Record
  disturbances : List (Kind × Disturbance)
  /-- The kinds of the questions so far. -/
  asked : List Kind
  /-- The addresses asked since somebody last looked. -/
  seen : List String
  opened : Nat
  closed : Nat

namespace Server

/-- The name in a manifest. -/
def nameOf (j : Json) : Option String :=
  ((j.member? "metadata").bind (·.member? "name")).bind Json.text?

/-- The labels in a manifest. -/
def labelsOf (j : Json) : List (String × Json) :=
  (((j.member? "metadata").bind (·.member? "labels")).map Json.members).getD []

/-- Whether a manifest carries what every term of a selector's text asks for. -/
def carries (selector : String) (j : Json) : Bool :=
  (Selector.terms selector).all fun
    | some (k, v) => ((labelsOf j).lookup k).bind Json.text? == some v
    | none => false

/-- The first manifest of a namespace and name. -/
def find? (s : Server) (ns name : String) : Option Json :=
  (s.pods.find? fun p => p.1 = ns && nameOf p.2 = some name).map (·.2)

/-- The manifests of a namespace that a selector's text admits. -/
def select (s : Server) (ns selector : String) : List Json :=
  (s.pods.filter fun p => p.1 = ns && carries selector p.2).map (·.2)

/-- What arrives on a log. -/
def arrivals (s : Server) (pod container : String) : List Arrival :=
  match s.records.find? fun r => r.pod = pod && r.container = container with
  | some r => r.arrivals
  | none => unwritten

/-- What a path asks for. -/
inductive Route where
  | list (ns : String)
  | get (ns pod : String)
  | log (ns pod : String)

/-- The kind of a route. -/
def Route.kind : Route → Kind
  | .list _ => .list
  | .get .. => .get
  | .log .. => .log

/-- Reads a path. -/
def route? (u : Uri) : Option Route :=
  match u.segments with
  | ["", "api", "v1", "namespaces", ns, "pods"] => some (.list ns)
  | ["", "api", "v1", "namespaces", ns, "pods", pod] => some (.get ns pod)
  | ["", "api", "v1", "namespaces", ns, "pods", pod, "log"] => some (.log ns pod)
  | _ => none

/-- The first value under a key of an address's query, or the empty text. -/
def param (u : Uri) (key : String) : String :=
  ((u.query.map Form.pairs).bind (·.lookup key)).getD ""

/-- Answers a question that nothing disturbs. -/
def serve (s : Server) (u : Uri) : Route → Answer × Server
  | .list ns =>
    (⟨200, .document (.object [("apiVersion", .text "v1"),
      ("items", .list (s.select ns (param u "labelSelector"))),
      ("kind", .text "PodList"), ("metadata", .object [])])⟩, s)
  | .get ns pod =>
    match s.find? ns pod with
    | some j => (⟨200, .document j⟩, s)
    | none => (podNotFound pod, s)
  | .log ns pod =>
    match s.find? ns pod with
    | some _ =>
      (⟨200, .log (s.arrivals pod (param u "container"))⟩, { s with opened := s.opened + 1 })
    | none => (podNotFound pod, s)

/-- What a question of a kind is answered instead, if it is. -/
def disturbed? (s : Server) (k : Kind) : Option (Except String Answer) :=
  match s.disturbances.lookup k with
  | some d => if d.skip < s.asked.count k then some d.answer else none
  | none => none

/-- Answers a request; where nothing comes back, the reason. -/
def answer (s : Server) (u : Uri) : Except String Answer × Server :=
  let s := { s with seen := s.seen ++ ["GET " ++ u.text] }
  match route? u with
  | none => (.ok pathNotFound, s)
  | some r =>
    let s := { s with asked := s.asked ++ [r.kind] }
    match s.disturbed? r.kind with
    | some instead => (instead, s)
    | none =>
      let (a, s) := s.serve u r
      (.ok a, s)

/-- Lets a log's body go. -/
def close (s : Server) : Server :=
  { s with closed := s.closed + 1 }

/-- The addresses asked since somebody last looked, who looks now. -/
def look (s : Server) : List String × Server :=
  (s.seen, { s with seen := [] })

end Server

end Api

end PodTail
