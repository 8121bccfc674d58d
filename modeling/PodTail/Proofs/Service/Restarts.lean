import PodTail.Proofs.Api.Names
import PodTail.Proofs.Api.Restarts
import PodTail.Proofs.Service.Answers
import PodTail.Proofs.Service.Listing

/-!
# The restarts that are listed

The list of a workload's pods shows for each pod how often its containers were restarted, which is
the sum of the `restartCount` fields of its manifest, added up in 32 bits. `restarts_add_up` says
what a request for the list comes to, for any server, any clock and any other sessions.

* `Server.manifests` are the manifests that the server sends for the request, or its refusal.
* `Manifest.AddsUp` is what `Manifest.pod` makes of one manifest: the exact sum, or the failure
  `overflow` if a partial sum leaves 32 bits. It holds of every manifest of the schema
  (`addsUp_of_fits`).
* `answer_pods` takes `World.request` down to `mapM Manifest.pod` over these manifests, and
  `mapM_pod_cases` says when that fails: exactly if one of them overflows.

`Handler.failed` turns no `overflow` into a response. So a single pod whose counts do not add up
keeps the whole workload from being listed, with no answer to the client, and never with a wrapped
number (`restarts_break_off`).
-/

set_option autoImplicit false

namespace PodTail

namespace Handler

open Api (Server)

/-- The response is a document with a list of pods whose `restarts` are these numbers. -/
def ListsRestarts (response : Response) (restarts : List Int) : Prop :=
  ∃ items : List Json, (∀ j ∈ items, j.Whole) ∧
    response = .json 200 (counted "pods" items) ∧
    items.map (·.member? "restarts") = restarts.map fun n => some (.int n)

/-- A response shows one list of numbers only, as for `Lists.unique`. -/
theorem ListsRestarts.unique {response : Response} {restarts restarts' : List Int}
    (h : ListsRestarts response restarts) (h' : ListsRestarts response restarts') :
    restarts = restarts' := by
  obtain ⟨items, whole, rfl, named⟩ := h
  obtain ⟨items', whole', same, named'⟩ := h'
  obtain ⟨-, rfl⟩ := counted_inj whole whole' (json_inj same).2
  refine (List.map_inj_right ?_).mp (named.symm.trans named')
  intro n n' eq
  simpa using eq

theorem listsRestarts_pods (present : Instant) (pods : List Pod) :
    ListsRestarts (.json 200 (podsBody present pods)) (pods.map fun p => p.restarts.toInt) := by
  rw [podsBody]
  refine ⟨_, ?_, rfl, ?_⟩
  · intro j mem
    obtain ⟨p, -, rfl⟩ := List.mem_map.mp mem
    exact whole_listed present p
  · rw [List.map_map, List.map_map]
    rfl

/-- `serve` on a list of pods, by what `Manifest.pod` makes of the manifests that are sent. -/
theorem serve_pods (settings : Settings) (present : Instant) (s : Server) (r : Request)
    (ns capp : String) :
    (serve settings present Server.cluster s r (.pods ns capp)).1 =
      match (s.manifests ns (Selector.ofCapp settings.cappLabel capp)).bind
        (·.mapM Manifest.pod) with
      | .error cause => failed cause
      | .ok pods => .answer (.json 200 (podsBody present pods)) := by
  have asked : Server.cluster.list = Server.listPods := by rw [Server.cluster]
  unfold serve
  dsimp only
  rw [asked, ← Server.listPods_eq]
  generalize s.listPods ns (Selector.ofCapp settings.cappLabel capp) = told
  obtain ⟨outcome, events, s'⟩ := told
  cases outcome <;> rfl

end Handler

namespace World

open Api (Server)
open Handler (ListsRestarts shown refusal)
open Manifest (AddsUp StaysNarrow restartCounts)

variable {w : World Server} {r : Request} {ns capp : String}

/-- The response to a request for the pods of a workload. There is none for a fatal failure. -/
theorem answer_pods (served : w.cluster = Server.cluster) (name : Option String)
    (leads : Route.of r = .ok (.pods ns capp)) :
    (w.request name r).1 =
      match (w.state.manifests ns (Selector.ofCapp w.service.settings.cappLabel capp)).bind
        (·.mapM Manifest.pod) with
      | .error cause => if cause.fatal then none else some (shown r (refusal (.cluster cause)))
      | .ok pods => some (shown r (.json 200 (Handler.podsBody w.present pods))) := by
  have verdict := Handler.serve_pods w.service.settings w.present w.state r ns capp
  rw [answer_request, served, Handler.handle_route _ _ _ _ leads]
  generalize (w.state.manifests ns (Selector.ofCapp w.service.settings.cappLabel capp)).bind
    (·.mapM Manifest.pod) = read at verdict ⊢
  generalize Handler.serve w.service.settings w.present Server.cluster w.state r (.pods ns capp) =
    told at verdict ⊢
  obtain ⟨given, events, state⟩ := told
  cases read with
  | ok pods =>
    obtain rfl : given = .answer (.json 200 (Handler.podsBody w.present pods)) := verdict
    rfl
  | error cause =>
    obtain rfl : given = Handler.failed cause := verdict
    cases fatal : cause.fatal with
    | true => simp [Handler.failed, fatal, Handler.Verdict.response?]
    | false => simp [Handler.failed, fatal, Handler.Verdict.response?]

/-- The restarts of the pods that were read are the exact sums, manifest by manifest. -/
theorem sums_of_describe {js : List Json} {pods : List Pod} (describe : Manifest.Describe js pods)
    (addsUp : ∀ j ∈ js, AddsUp j) :
    (pods.map fun p => p.restarts.toInt) = js.map fun j => (restartCounts j).sum := by
  induction describe with
  | nil => rfl
  | @cons j p js pods read _ ih =>
    obtain ⟨first, others⟩ := List.forall_mem_cons.mp addsUp
    have exact := (first.exact_iff p.restarts.toInt).mp (by rw [read]; rfl)
    rw [List.map_cons, List.map_cons, ih others, exact.1]

/-- **Restart counts are added up exactly, or the listing breaks off.** Every manifest that fits
    `Schema.pod` has `AddsUp`: its counts are numbers of 32 bits, the pod's number of restarts is
    their exact sum if all partial sums stay in 32 bits, and otherwise there is no pod. For a
    request for the pods of a workload, whatever the server holds: if it refuses, the refusal is
    answered; if the counts of all manifests that it sends stay narrow, the response shows the exact
    sum of each; and if those of one do not, there is no response at all, and so no wrapped number.
    -/
theorem restarts_add_up (w : World Server) (name : Option String) {r : Request} {ns capp : String}
    (served : w.cluster = Server.cluster) (leads : Route.of r = .ok (.pods ns capp)) :
    let sent := w.state.manifests ns (Selector.ofCapp w.service.settings.cappLabel capp)
    let answer := (w.request name r).1
    (∀ j depth, Json.Shape.fits j depth Api.Schema.pod = true → AddsUp j) ∧
      (∀ cause, sent = .error cause → answer = some (shown r (refusal (.cluster cause)))) ∧
      ∀ js, sent = .ok js →
        (∀ j ∈ js, AddsUp j) ∧
        ((∀ j ∈ js, StaysNarrow (restartCounts j)) →
          ∃ response, answer = some (shown r response) ∧
            ∀ restarts, ListsRestarts response restarts ↔
              restarts = js.map fun j => (restartCounts j).sum) ∧
        ((∃ j ∈ js, ¬ StaysNarrow (restartCounts j)) → answer = none) := by
  intro sent answer
  have answered : answer = _ := answer_pods served name leads
  have cases := w.state.manifests_cases ns (Selector.ofCapp w.service.settings.cappLabel capp)
  refine ⟨fun j depth fits => Manifest.addsUp_of_fits fits, ?_, ?_⟩
  · intro cause refused
    have same : w.state.manifests ns (Selector.ofCapp w.service.settings.cappLabel capp) =
        .error cause := refused
    have told : cause.fatal = false := by
      rcases cases with ⟨js, sent, -⟩ | ⟨cause', sent, told⟩
      · simp [same] at sent
      · obtain rfl : cause = cause' := by simpa [same] using sent
        exact told
    simp only [answered, same, Except.bind, told, Bool.false_eq_true, if_false]
  · intro js given
    have same : w.state.manifests ns (Selector.ofCapp w.service.settings.cappLabel capp) = .ok js :=
      given
    have addsUp : ∀ j ∈ js, AddsUp j := by
      rcases cases with ⟨js', sent, fits⟩ | ⟨cause, sent, -⟩
      · obtain rfl : js = js' := by simpa [same] using sent
        intro j mem
        obtain ⟨depth, fits⟩ := fits j mem
        exact Manifest.addsUp_of_fits fits
      · simp [same] at sent
    rw [same, Except.bind] at answered
    refine ⟨addsUp, ?_, ?_⟩
    · intro narrow
      -- an overflow would come from a manifest whose counts do not stay narrow
      rcases Manifest.mapM_pod_cases js with ⟨pods, read, describe⟩ | ⟨-, j, mem, overflows⟩
      · rw [read] at answered
        have listed := Handler.listsRestarts_pods w.present pods
        rw [sums_of_describe describe addsUp] at listed
        refine ⟨_, answered, fun restarts => ⟨fun shown => shown.unique listed, ?_⟩⟩
        rintro rfl
        exact listed
      · exact absurd (narrow j mem) ((addsUp j mem).overflow_iff.mp overflows)
    · rintro ⟨j, mem, wide⟩
      have overflows := (addsUp j mem).overflow_iff.mpr wide
      rcases Manifest.mapM_pod_cases js with ⟨pods, -, describe⟩ | ⟨failed, -⟩
      · obtain ⟨p, read⟩ := describe.read mem
        simp [overflows] at read
      · rw [failed] at answered
        exact answered

/-! ## A workload that was restarted often

`restarts_add_up` at the limit of 32 bits and just beyond it. -/

/-- The manifest of a pod of the workload `shop` with these restart counts. -/
def restarted (counts : List Int) : Json :=
  .object
    [("metadata", .object
      [("labels", .object [("rcs.dana.io/parent-capp", .text "shop")]), ("name", .text "front")]),
    ("status", .object
      [("containerStatuses", .list (counts.map fun n => .object [("restartCount", .int n)]))])]

/-- A service whose server keeps one such pod. -/
def oneRestarted (counts : List Int) : World Server :=
  start Settings.standard ⟨0, false⟩ Server.cluster
    { pods := [("ns", restarted counts)]
      records := []
      disturbances := []
      asked := []
      seen := []
      opened := 0
      closed := 0 }

section

open Json (Shape)

theorem fits_count {n : Int} (narrow : Manifest.Narrow n) (depth : Nat) :
    Shape.fits (.object [("restartCount", .int n)]) (depth + 1) Api.Schema.containerStatus =
      true := by
  have count : Shape.fits (.object [("restartCount", .int n)]) (depth + 1)
      Api.Schema.containerStatus =
        (((if -2147483648 ≤ n ∧ n ≤ 2147483647 then none
          else some (Json.Problem.wrongValue (Json.int n).kind "i32")).isNone) && true) :=
    rfl
  rw [count, if_pos (show -2147483648 ≤ n ∧ n ≤ 2147483647 from narrow)]
  rfl

/-- The manifest fits `Schema.pod` whatever the counts are, as long as each is one of 32 bits. -/
theorem fits_restarted {counts : List Int} (narrow : ∀ n ∈ counts, Manifest.Narrow n) :
    Shape.fits (restarted counts) 125 Api.Schema.pod = true := by
  have parts : Shape.fits (restarted counts) 125 Api.Schema.pod =
      (Shape.fitsItems (counts.map fun n => .object [("restartCount", .int n)]) 122
        Api.Schema.containerStatus && true && true) :=
    rfl
  have items : Shape.fitsItems (counts.map fun n => .object [("restartCount", .int n)]) 122
      Api.Schema.containerStatus = true :=
    Shape.fitsItems_of_forall <| List.forall_mem_map.mpr fun n mem => fits_count (narrow n mem) 121
  rw [parts, items]
  rfl

end

theorem manifests_oneRestarted {counts : List Int} (narrow : ∀ n ∈ counts, Manifest.Narrow n) :
    (oneRestarted counts).state.manifests "ns" (Selector.ofCapp Settings.standard.cappLabel "shop") =
      .ok [restarted counts] := by
  have text : Selector.text (Selector.ofCapp Settings.standard.cappLabel "shop") =
      "rcs.dana.io/parent-capp=shop" := rfl
  have carried : Server.carries "rcs.dana.io/parent-capp=shop" (restarted counts) = true := by
    -- the labels do not depend on the counts
    show Server.carries "rcs.dana.io/parent-capp=shop" (restarted []) = true
    rfl
  have picked : (oneRestarted counts).state.select "ns" "rcs.dana.io/parent-capp=shop" =
      [restarted counts] := by
    simp [Server.select, oneRestarted, start, carried]
  have own : Api.Name "ns" := by decide
  have sent := Api.Request.target_of_names (r := .list "ns" "rcs.dana.io/parent-capp=shop")
    (by simpa [Api.Request.names] using own) (by decide)
  rw [← text] at picked sent
  have manifests := Server.manifests_quiet (s := (oneRestarted counts).state) rfl own.piece sent
  rw [picked] at manifests
  exact manifests (by simpa using fits_restarted narrow)

/-- A request for its pods. -/
def podsRequest : Request := ⟨"GET", ⟨"/v1/capps/ns/shop/pods", none⟩, [], false⟩

theorem route_podsRequest : Route.of podsRequest = .ok (.pods "ns" "shop") :=
  rfl

/-- The counts 2147483646 and 1 sum to the greatest number of 32 bits, and the list shows it. -/
theorem restarts_at_the_limit :
    AddsUp (restarted [2147483646, 1]) ∧
      ∃ response, ((oneRestarted [2147483646, 1]).request none podsRequest).1 = some response ∧
        ListsRestarts response [2147483647] := by
  obtain ⟨-, -, listed⟩ := restarts_add_up (oneRestarted [2147483646, 1]) none rfl route_podsRequest
  obtain ⟨addsUp, exact, -⟩ := listed _ (manifests_oneRestarted (by decide))
  have counts : restartCounts (restarted [2147483646, 1]) = [2147483646, 1] := rfl
  have natural := (addsUp _ (List.mem_singleton_self _)).natural
  rw [counts] at natural
  have stays : StaysNarrow [2147483646, 1] := (natural (by decide)).mpr (by decide)
  obtain ⟨response, answered, shown⟩ := exact (by simpa [counts] using stays)
  exact ⟨addsUp _ (List.mem_singleton_self _), response, answered, (shown _).mpr rfl⟩

/-- The counts 2147483647 and 1 sum to 2147483648, which takes more than 32 bits. `Manifest.pod`
    fails, and a request for the list gets no response. -/
theorem restarts_break_off :
    let j := restarted [2147483647, 1]
    Json.Shape.fits j 125 Api.Schema.pod = true ∧
      (restartCounts j).sum = 2147483648 ∧
      Manifest.totalRestarts (Manifest.counted j) = .error .overflow ∧
      Manifest.pod j = .error .overflow ∧
      ((oneRestarted [2147483647, 1]).request none podsRequest).1 = none := by
  intro j
  have narrow : ∀ n ∈ [2147483647, 1], Manifest.Narrow n := by decide
  have overflows : Manifest.pod j = .error .overflow := rfl
  refine ⟨fits_restarted narrow, rfl, rfl, overflows, ?_⟩
  have answered := answer_pods (w := oneRestarted [2147483647, 1]) rfl none route_podsRequest
  have settings : (oneRestarted [2147483647, 1]).service.settings = Settings.standard := rfl
  rw [settings, manifests_oneRestarted narrow, Except.bind, List.mapM_cons, overflows] at answered
  exact answered

end World

end PodTail
