import PodTail.Api.Manifest
import PodTail.Api.Request
import PodTail.Api.Schema.Pod
import PodTail.Api.Server
import PodTail.Json.Reader
import PodTail.Lookup
import PodTail.Net.Status

/-!
# The cluster behind an API server

`Server.cluster` answers the questions of look-ups by sending requests to a `Server` and reading
the bodies that come back: `listPods`, `getPod` and `openLog`, one for each question.

* `Server.send` tells a refusal from an answer. A status from 400 to 599 is a refusal, and
  `reportOf` reads the report in its body. Where there is none, the report is made of the status and
  of the body's text.
* `Body.read` reads a document of a shape. A body that ends early, is no UTF-8 or does not have the
  shape is a `ClusterFailure`.
* `Server.openLog` reads nothing: any body that is not refused is taken for the log, a manifest too.
* `Server.delay` is how long a body takes to arrive. A list and a pod are read to their end before
  the answer is given, a log is answered at once.
-/

set_option autoImplicit false

namespace PodTail

namespace Api

/-! ## Bodies -/

/-- The bytes of a body as they arrive. -/
def Body.arrivals : Body → List Arrival
  | .document j => [.chunk (Utf8.bytes j.compact)]
  | .text s => [.chunk (Utf8.bytes s)]
  | .log arrivals => arrivals

/-- All bytes of what arrives, or the reason why reading it failed. -/
def gather : List Arrival → Except String (List UInt8)
  | [] => .ok []
  | .chunk bytes :: rest => (gather rest).map (bytes ++ ·)
  | .failure reason :: _ => .error reason
  | _ :: rest => gather rest

/-- How long it takes until all has arrived, or reading has failed. -/
def arrivalTime : List Arrival → Option Nat
  | [] => some 0
  | .failure _ :: _ => some 0
  | .silence :: _ => none
  | .wait ms :: rest => (arrivalTime rest).map (ms + ·)
  | .chunk _ :: rest => arrivalTime rest
  | .cancel :: rest => arrivalTime rest

/-- The text of a body. -/
def Body.whole : Body → Except ClusterFailure String
  | .document j => .ok j.compact
  | .text s => .ok s
  | .log arrivals =>
    match gather arrivals with
    | .error reason => .error (.unreachable reason)
    | .ok bytes =>
      match Utf8.fault? bytes with
      | none => .ok (Utf8.repair bytes)
      | some fault => .error (.garbled fault)

/-- The document of a shape that a body holds. One that is sent as a document and fits needs no
reading. -/
def Body.read (shape : Json.Shape) (b : Body) : Except ClusterFailure Json :=
  let reading := do
    let s ← b.whole
    (Json.read shape s).mapError .unreadable
  match b with
  | .document j => if shape.fits j Json.Reader.depthLimit then .ok j else reading
  | _ => reading

/-! ## Refusals -/

/-- Whether an object has a key at most once. -/
def once (key : String) (j : Json) : Bool :=
  (j.members.filter (·.1 = key)).length ≤ 1

/-- A text that may be left out. -/
def lenient (key : String) (j : Json) : Option String :=
  match j.member? key with
  | none => some ""
  | some found => found.text?

/-- A report of a text, two more texts, and a code of 16 bits. -/
def reportFrom? (status message reason : String) (code : Int) : Option StatusReport :=
  if 0 ≤ code ∧ code ≤ 65535 then some ⟨status, message, reason, code.toNat⟩ else none

/-- Reads a report with its parts named. -/
def namedReport? (s : String) : Option StatusReport := do
  let j ← (Json.read Schema.report s).toOption
  let status ← (j.member? "status").bind Json.text?
  let message ← lenient "message" j
  let reason ← lenient "reason" j
  let code ← (j.member? "code").bind Json.int?
  if ["status", "message", "reason", "code"].all (once · j) then
    reportFrom? status message reason code
  else none

/-- Reads a report whose parts are told by their order. -/
def orderedReport? (s : String) : Option StatusReport :=
  match Json.parse s with
  | .ok (.list [.text status, .text message, .text reason, .int code]) =>
    reportFrom? status message reason code
  | _ => none

/-- The report of a refusal with the given status and text. -/
def reportOf (status : Nat) (body : String) : StatusReport :=
  ((namedReport? body).or (orderedReport? body)).getD
    ⟨Status.text status, Quoted.text body, "Failed to parse error data", status⟩

/-! ## Questions -/

namespace Server

/-- Sends a request. A log's body that is only read for a report is let go at once. -/
def send (s : Server) (r : Request) : Except ClusterFailure Body × Server :=
  match r.target with
  | .error cause => (.error (.unsendable cause), s)
  | .ok u =>
    match s.answer u with
    | (.error reason, s) => (.error (.unreachable reason), s)
    | (.ok a, s) =>
      if 400 ≤ a.status ∧ a.status < 600 then
        match a.body.whole with
        | .ok body => (.error (.refused (reportOf a.status body)), s)
        | .error failure => (.error failure, s)
      else (.ok a.body, s)

/-- How long it takes until the body of an answer has arrived. -/
def bodyTime (s : Server) (r : Request) : Option Nat :=
  match r.target with
  | .error _ => some 0
  | .ok u =>
    match (s.answer u).1 with
    | .ok ⟨_, .log arrivals⟩ => arrivalTime arrivals
    | _ => some 0

/-- Lets a body go that has been read to its end. -/
def finish (s : Server) : Body → Server
  | .log _ => s.close
  | _ => s

/-- Asks for pods by a selector. -/
def listPods (s : Server) (ns : String) (selector : Labels) :
    Except ClusterFailure (List Pod) × List Event × Server :=
  let text := Selector.text selector
  match s.send (.list ns text) with
  | (.error failure, s) => (.error failure, [], s)
  | (.ok body, s) =>
    match body.read Schema.podList with
    | .error failure => (.error failure, [], s.finish body)
    | .ok j =>
      let manifests := Manifest.itemsUnder "items" j
      (manifests.mapM Manifest.pod, [.listed ns text manifests.length], s.finish body)

/-- Asks for a pod. -/
def getPod (s : Server) (ns name : String) : Except ClusterFailure Pod × Server :=
  match s.send (.get ns name) with
  | (.error failure, s) => (.error (failure.forPod name), s)
  | (.ok body, s) => ((body.read Schema.pod).bind Manifest.pod, s.finish body)

/-- The words for a body that broke off, on a log. -/
def named : Feed.Step → Feed.Step
  | .failure reason => .failure (ClusterFailure.unreachable reason).message
  | step => step

/-- Asks for a log. -/
def openLog (s : Server) (ns name container : String) (tail : Option Int) :
    Except ClusterFailure OpenLog × Server :=
  match s.send (.log ns name container tail) with
  | (.error failure, s) => (.error (failure.forPod name), s)
  | (.ok body, s) =>
    let counted := match body with | .log _ => true | _ => false
    (.ok ⟨(Feed.ofArrivals body.arrivals).map named, counted⟩, s)

/-- How long the answer to a question takes. A log is answered at once; what is read to its end is
not. -/
def delay (s : Server) : Lookup.Question → Option Nat
  | .list ns selector => s.bodyTime (.list ns (Selector.text selector))
  | .get ns name => s.bodyTime (.get ns name)
  | .log _ _ _ _ => some 0

/-- The cluster behind an API server. -/
def cluster : Cluster Server where
  list := listPods
  get := getPod
  log := openLog
  release s source := if source.counted then s.close else s
  delay := delay

end Server

end Api

end PodTail
