import PodTail.Api.Client
import PodTail.Proofs.Api.Address

/-!
# What a question to the API server is answered with

`Server.send` on a server that nothing disturbs. A request whose names are pieces of a path goes
where it says (`PodTail.Proofs.Api.Address`), so for each of the three kinds of request the answer
can be given in terms of what the server keeps: `send_list`, `send_get` and `send_log`, all from
`send_quiet`. `reads_what_is_named` is what this means for `Server.getPod` and `Server.openLog`: the
pod that is read is the one that was named, and the log that is opened is that of its container.

A name that holds a `?` or a `#` is not a piece. The path ends there, and what the server is asked
for is another pod, or the pod and not its log. In the second case the manifest of the pod is read
as a log, line by line (`question_mark_goes_astray`).
-/

set_option autoImplicit false

namespace PodTail

namespace Api

/-- The text of an answer's body. A log has none. -/
def Answer.text (a : Answer) : String :=
  match a.body with
  | .document j => j.compact
  | .text s => s
  | .log _ => ""

namespace Server

variable {s : Server} {r : Request}

/-- The server with a request in its records. -/
def noted (s : Server) (r : Request) : Server :=
  { s with
    seen := s.seen ++ ["GET " ++ Uri.text ⟨r.path, r.query?⟩]
    asked := s.asked ++ [r.route.kind] }

theorem disturbed_quiet (quiet : s.disturbances = []) (k : Kind) : s.disturbed? k = none := by
  rw [disturbed?, quiet]
  rfl

/-- `answer` is `serve` if nothing disturbs the server. -/
theorem answer_quiet (quiet : s.disturbances = []) (pieces : ∀ name ∈ r.names, Piece name) :
    s.answer ⟨r.path, r.query?⟩ =
      (.ok ((s.noted r).serve ⟨r.path, r.query?⟩ r.route).1,
        ((s.noted r).serve ⟨r.path, r.query?⟩ r.route).2) := by
  -- the server looks for a disturbance once it has noted the request
  have calm : (s.noted r).disturbances = [] := quiet
  have still := disturbed_quiet calm r.route.kind
  unfold noted at still ⊢
  simp only [answer, Request.route_path pieces, still]

/-- The outcome of a request that is sent, by the answer of `serve`: a status of 400 to 599 is a
    failure with the report in it, and any other an answer with its body. -/
theorem send_quiet (quiet : s.disturbances = []) (pieces : ∀ name ∈ r.names, Piece name)
    (sent : r.target = .ok ⟨r.path, r.query?⟩) {a : Answer} {s' : Server}
    (served : (s.noted r).serve ⟨r.path, r.query?⟩ r.route = (a, s')) :
    s.send r =
      if 400 ≤ a.status ∧ a.status < 600 then
        match a.body.whole with
        | .ok body => (.error (.refused (reportOf a.status body)), s')
        | .error failure => (.error failure, s')
      else (.ok a.body, s') := by
  by_cases refusal : 400 ≤ a.status ∧ a.status < 600
  · cases whole : a.body.whole with
    | ok body =>
      simp only [send, sent, answer_quiet quiet pieces, served, if_pos refusal, whole]
    | error failure =>
      simp only [send, sent, answer_quiet quiet pieces, served, if_pos refusal, whole]
  · simp only [send, sent, answer_quiet quiet pieces, served, if_neg refusal]

theorem send_unsent {cause : BadRequest} (h : r.target = .error cause) :
    s.send r = (.error (.unsendable cause), s) := by
  simp only [send, h]

/-- The list of some manifests, as it is sent. -/
def listing (manifests : List Json) : Json :=
  .object [("apiVersion", .text "v1"), ("items", .list manifests), ("kind", .text "PodList"),
    ("metadata", .object [])]

/-- A list request is answered with the manifests that the selector's text admits. -/
theorem send_list {ns selector : String} (quiet : s.disturbances = []) (own : Piece ns)
    (sent : (Request.list ns selector).target =
      .ok ⟨(Request.list ns selector).path, (Request.list ns selector).query?⟩) :
    s.send (.list ns selector) =
      (.ok (.document (listing (s.select ns selector))), s.noted (.list ns selector)) := by
  have pieces : ∀ name ∈ (Request.list ns selector).names, Piece name := by
    simp [Request.names, own]
  have same : (s.noted (.list ns selector)).select ns selector = s.select ns selector := rfl
  have served : (s.noted (.list ns selector)).serve
      ⟨(Request.list ns selector).path, (Request.list ns selector).query?⟩ (.list ns) =
      (⟨200, .document (listing (s.select ns selector))⟩, s.noted (.list ns selector)) := by
    simp only [serve, Request.param_selector, same, listing]
  exact send_quiet quiet pieces sent served

/-- A request for a pod is answered with its manifest, or refused with 404. -/
theorem send_get {ns pod : String} (quiet : s.disturbances = []) (own : Piece ns) (named : Piece pod)
    (sent : (Request.get ns pod).target = .ok ⟨(Request.get ns pod).path, none⟩) :
    s.send (.get ns pod) =
      (match s.find? ns pod with
        | some j => .ok (.document j)
        | none => .error (.refused (reportOf 404 (podNotFound pod).text)),
      s.noted (.get ns pod)) := by
  have pieces : ∀ name ∈ (Request.get ns pod).names, Piece name := by
    simp [Request.names, own, named]
  have same : (s.noted (.get ns pod)).find? ns pod = s.find? ns pod := rfl
  cases found : s.find? ns pod with
  | some j =>
    rw [found] at same
    have served : (s.noted (.get ns pod)).serve ⟨(Request.get ns pod).path, none⟩ (.get ns pod) =
        (⟨200, .document j⟩, s.noted (.get ns pod)) := by
      simp only [serve, same]
    exact send_quiet quiet pieces sent served
  | none =>
    rw [found] at same
    have served : (s.noted (.get ns pod)).serve ⟨(Request.get ns pod).path, none⟩ (.get ns pod) =
        (podNotFound pod, s.noted (.get ns pod)) := by
      simp only [serve, same]
    exact send_quiet quiet pieces sent served

/-- A request for a log is answered with what arrives for the container, or refused with 404. Only
    whether there is such a pod matters for this, not whether it has the container. -/
theorem send_log {ns pod container : String} {tail : Option Int} (quiet : s.disturbances = [])
    (own : Piece ns) (named : Piece pod)
    (sent : (Request.log ns pod container tail).target =
      .ok ⟨(Request.log ns pod container tail).path, (Request.log ns pod container tail).query?⟩) :
    s.send (.log ns pod container tail) =
      match s.find? ns pod with
      | some _ => (.ok (.log (s.arrivals pod container)),
          { s.noted (.log ns pod container tail) with opened := s.opened + 1 })
      | none => (.error (.refused (reportOf 404 (podNotFound pod).text)),
          s.noted (.log ns pod container tail)) := by
  have pieces : ∀ name ∈ (Request.log ns pod container tail).names, Piece name := by
    simp [Request.names, own, named]
  have same : (s.noted (.log ns pod container tail)).find? ns pod = s.find? ns pod := rfl
  have param := Request.param_container ns pod container tail
  cases found : s.find? ns pod with
  | some j =>
    rw [found] at same
    have served : (s.noted (.log ns pod container tail)).serve
        ⟨(Request.log ns pod container tail).path, (Request.log ns pod container tail).query?⟩
        (.log ns pod) = (⟨200, .log (s.arrivals pod container)⟩,
          { s.noted (.log ns pod container tail) with opened := s.opened + 1 }) := by
      simp only [serve, same, param]
      rfl
    exact send_quiet quiet pieces sent served
  | none =>
    rw [found] at same
    have served : (s.noted (.log ns pod container tail)).serve
        ⟨(Request.log ns pod container tail).path, (Request.log ns pod container tail).query?⟩
        (.log ns pod) = (podNotFound pod, s.noted (.log ns pod container tail)) := by
      simp only [serve, same]
    exact send_quiet quiet pieces sent served

/-! ## Pods and logs -/

/-- **What is read is what was named.** Let nothing disturb the server, and let namespace and pod be
    pieces of a path. Then a pod that `getPod` reads is the first manifest under that name in that
    namespace, and a log that `openLog` opens is what arrives for that container of that pod, which
    is there. -/
theorem reads_what_is_named (s : Server) (ns pod container : String) (tail : Option Int)
    (quiet : s.disturbances = []) (own : Piece ns) (named : Piece pod) :
    (∀ p, (s.getPod ns pod).1 = .ok p →
      ∃ j, s.find? ns pod = some j ∧ ((Body.document j).read Schema.pod).bind Manifest.pod = .ok p) ∧
    ∀ source, (s.openLog ns pod container tail).1 = .ok source →
      (∃ j, s.find? ns pod = some j) ∧ source.counted = true ∧
        source.feed = (Feed.ofArrivals (s.arrivals pod container)).map Server.named := by
  refine ⟨fun p read => ?_, fun source opened => ?_⟩
  · -- a request that is not sent reads nothing; one that is sent is `send_get`
    rcases Request.target_cases (r := .get ns pod) (by simp [Request.names, own, named]) with
      sent | ⟨cause, unsent⟩
    · unfold getPod at read
      rw [send_get quiet own named sent] at read
      cases found : s.find? ns pod with
      | some j =>
        rw [found] at read
        exact ⟨j, rfl, read⟩
      | none =>
        rw [found] at read
        cases read
    · unfold getPod at read
      rw [send_unsent unsent] at read
      cases read
  · rcases Request.target_cases (r := .log ns pod container tail)
        (by simp [Request.names, own, named]) with sent | ⟨cause, unsent⟩
    · unfold openLog at opened
      rw [send_log quiet own named sent] at opened
      cases found : s.find? ns pod with
      | some j =>
        rw [found] at opened
        cases opened
        exact ⟨⟨j, rfl⟩, rfl, rfl⟩
      | none =>
        rw [found] at opened
        cases opened
    · unfold openLog at opened
      rw [send_unsent unsent] at opened
      cases opened

/-- A server with one pod, of one container that has logged one line. -/
def oneWeb : Server where
  pods := [("ns", .object [("metadata", .object [("name", .text "web")]),
    ("spec", .object [("containers", .list [.object [("name", .text "c")]])])])]
  records := [⟨"web", "c", [.chunk (Utf8.bytes "hello\n")]⟩]
  disturbances := []
  asked := []
  seen := []
  opened := 0
  closed := 0

/-- `reads_what_is_named` on `oneWeb`, where pod and log are read. -/
theorem reads_web :
    (oneWeb.disturbances = [] ∧ Piece "ns" ∧ Piece "web") ∧
      ((oneWeb.getPod "ns" "web").1.toOption.map (·.name)) = some "web" ∧
      ((oneWeb.openLog "ns" "web" "c" none).1.toOption.map (·.feed)) = some [.line "hello"] ∧
      ∀ source, (oneWeb.openLog "ns" "web" "c" none).1 = .ok source →
        source.feed = (Feed.ofArrivals (oneWeb.arrivals "web" "c")).map Server.named := by
  have quiet : oneWeb.disturbances = [] := rfl
  have own : Piece "ns" := ⟨by decide, by decide, by decide⟩
  have named : Piece "web" := ⟨by decide, by decide, by decide⟩
  exact ⟨⟨quiet, own, named⟩, rfl, rfl, fun source opened =>
    ((reads_what_is_named oneWeb "ns" "web" "c" none quiet own named).2 source opened).2.2⟩

/-- No pod is called `web?x`. A request for it reads the pod `web`, and a request for its log reads
    the manifest of `web` as the lines of a log. -/
theorem question_mark_goes_astray :
    (oneWeb.find? "ns" "web?x").isNone = true ∧
      ((oneWeb.getPod "ns" "web?x").1.toOption.map (·.name)) = some "web" ∧
      ((oneWeb.openLog "ns" "web?x" "c" none).1.toOption.map (·.feed)) =
        some ((oneWeb.find? "ns" "web").toList.map fun j => .line j.compact) ∧
      (oneWeb.openLog "ns" "web?x" "c" none).2.opened = 0 :=
  ⟨rfl, rfl, rfl, rfl⟩

end Server

end Api

end PodTail
