import PodTail.Age
import PodTail.Service.Basic
import PodTail.Web.Handshake
import PodTail.Web.Route
import PodTail.Web.Token

/-!
# Answering requests

`Handler.handle` gives the `Verdict` on a request: an answer, a session that is accepted, or none at
all, for a failure that is `fatal`. `Handler.serve` does this for each `Route`.

* The two listings ask the cluster one question each, and show the answer as a document
  (`containersBody`, `podsBody`) or as a `refusal`.
* A streaming request asks the cluster nothing. `judge` refuses it if it is no proper handshake, and
  then if it has no token, and accepts it otherwise with status 101. The log is looked up only in
  the session, so that a failure there can no longer change the response.
-/

set_option autoImplicit false

namespace PodTail

namespace Handler

/-! ## The look-ups -/

/-- The document for a number of things. -/
def counted (key : String) (items : List Json) : String :=
  (Json.object [("count", .int items.length), (key, .list items)]).compact

/-- The document for the containers of a pod. -/
def containersBody (p : Pod) : String :=
  counted "containers" (p.containers.map fun c => .object [("containerName", .text c)])

/-- The age of a pod at an instant. -/
def age (present : Instant) (p : Pod) : String :=
  Age.text (p.created.map fun c => (present.seconds - c.seconds) * 1000)

/-- The document for the pods of a workload. -/
def podsBody (present : Instant) (pods : List Pod) : String :=
  counted "pods" (pods.map fun p =>
    .object [("podName", .text p.name), ("phase", .text p.phase), ("age", .text (age present p)),
      ("restarts", .int p.restarts.toInt), ("containers", .list (p.containers.map .text))])

/-- The response to a refused request. -/
def refusal (r : Refusal) : Response :=
  .json r.status r.body

/-! ## Streaming requests -/

/-- What becomes of a request. -/
inductive Verdict where
  | answer (r : Response)
  /-- The connection is handed over, and a session begins. -/
  | accept (r : Response) (t : Target)
  /-- There is no response: answering breaks off. -/
  | breakOff
  deriving DecidableEq, Repr

/-- The response that hands a connection over. -/
def switching (key : List UInt8) (agreed : Option (List UInt8)) : Response :=
  ⟨101, [("connection", "upgrade"), ("upgrade", "websocket"),
    ("sec-websocket-accept", Handshake.accept key)]
      ++ (agreed.map fun p => ("sec-websocket-protocol", Utf8.repair p)).toList, ""⟩

/-- Judges a streaming request. -/
def judge (tokenHeader : String) (r : Request) (t : Target) : Verdict × List Event :=
  match Handshake.key r.method r.headers r.upgradable with
  | .error fault =>
    (.answer (refusal (.handshake fault.message)), [.handshakeRejected t fault.message])
  | .ok key =>
    match Token.of? r.headers tokenHeader with
    | none => (.answer (refusal .noToken), [.tokenMissing t])
    | some token => (.accept (switching key (Token.agreed? r.headers token)) t, [])

/-! ## All requests -/

/-- The question that a route asks the cluster, if it asks one. -/
def question? (settings : Settings) : Route → Option Lookup.Question
  | .containers ns pod => some (.get ns pod)
  | .pods ns capp => some (.list ns (Selector.ofCapp settings.cappLabel capp))
  | _ => none

/-- What becomes of a request whose question failed in the cluster. -/
def failed (cause : ClusterFailure) : Verdict :=
  if cause.fatal then .breakOff else .answer (refusal (.cluster cause))

/-- Answers what a route asks for. -/
def serve {σ : Type} (settings : Settings) (present : Instant) (c : Cluster σ) (s : σ)
    (r : Request) : Route → Verdict × List Event × σ
  | .health => (.answer (.plain 200 "ok"), [], s)
  | .podLogs ns pod container =>
    let (v, events) := judge settings.tokenHeader r (Target.ofPod ns pod container)
    (v, events, s)
  | .cappLogs ns capp pod container =>
    let (v, events) := judge settings.tokenHeader r (Target.ofCapp ns capp pod container)
    (v, events, s)
  | .containers ns pod =>
    match c.get s ns pod with
    | (.ok p, s) => (.answer (.json 200 (containersBody p)), [], s)
    | (.error cause, s) => (failed cause, [], s)
  | .pods ns capp =>
    match c.list s ns (Selector.ofCapp settings.cappLabel capp) with
    | (.ok pods, events, s) => (.answer (.json 200 (podsBody present pods)), events, s)
    | (.error cause, events, s) => (failed cause, events, s)

/-- Answers a request. -/
def handle {σ : Type} (settings : Settings) (present : Instant) (c : Cluster σ) (s : σ)
    (r : Request) : Verdict × List Event × σ :=
  match Route.of r with
  | .error fault => (.answer fault.response, [], s)
  | .ok route =>
    match serve settings present c s r route with
    | (.answer response, events, s) =>
      (.answer (if r.method = "HEAD" then response.headOnly else response), events, s)
    | other => other

end Handler

end PodTail
