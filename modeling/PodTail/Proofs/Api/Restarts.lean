import PodTail.Proofs.Api.Mirror
import PodTail.Proofs.Json.Reader

/-!
# Restart counts that are read

`PodTail.Proofs.Api.Manifest` is about counts of 32 bits, as `Manifest.pod` adds them up. Here it is
carried over to the numbers that stand in a manifest, and to the manifests that a server sends.

* A manifest is read by its shape, and `Schema.containerStatus` gives a restart count 32 bits. So no
  count is cut short when it becomes an `Int32` (`narrow_restartCounts`, `toInt_counted`).
* There may be any number of counts, and the shape says nothing of their sum. `AddsUp` puts together
  what becomes of it, and `addsUp_of_fits` shows it for every manifest that fits.
* `Server.manifests` are the documents that `Server.listPods` makes pods of (`listPods_eq`). They
  fit `Schema.pod` by `Json.fits_of_read`, and all failures before are told to the client
  (`manifests_cases`). So only counts that do not add up can break off the listing.
-/

set_option autoImplicit false

namespace PodTail

namespace Manifest

open Json (Shape)

/-! ## The counts in a manifest -/

/-- The restart counts as the manifest has them. A container without one counts as 0. -/
def restartCounts (j : Json) : List Int :=
  (itemsUnder "containerStatuses" ((j.given? "status").getD .null)).map fun c =>
    ((c.given? "restartCount").bind Json.int?).getD 0

variable {n : Int} {j : Json} {depth : Nat}

theorem fits_itemsUnder {key : String} {shape s item : Shape}
    (h : Shape.fits j depth shape = true) (under : shape.given.under? key = some s)
    (wanted : s.item? = some item) :
    ∀ c ∈ itemsUnder key j, ∃ d, Shape.fits c d item = true := by
  intro c mem
  unfold itemsUnder at mem
  cases given : j.given? key with
  | none =>
    rw [given] at mem
    cases mem
  | some found =>
    rw [given] at mem
    obtain ⟨d, fits⟩ := Shape.fits_given h given under
    exact Shape.fits_item fits wanted c mem

theorem narrow_of_fits (h : Shape.fits (.int n) depth (.optional .int32) = true) : Narrow n := by
  have scalar : (Json.Scalar.whole "i32" (-2147483648) 2147483647).complaint? (.int n) = none := by
    simpa [Shape.fits, Shape.fitsScalar, Shape.int32] using h
  simp only [Json.Scalar.complaint?] at scalar
  split at scalar
  next bounds => exact bounds
  next => cases scalar

/-- Each count in a manifest that fits `Schema.pod` is one of 32 bits: down from the status to the
    list of containers, and from there to the count. -/
theorem narrow_restartCounts (h : Shape.fits j depth Api.Schema.pod = true) :
    ∀ n ∈ restartCounts j, Narrow n := by
  intro n mem
  obtain ⟨c, there, rfl⟩ := List.mem_map.mp mem
  -- where a count is missing, or is no number, 0 is counted
  have zero : Narrow 0 := by decide
  cases given : j.given? "status" with
  | none =>
    rw [given] at there
    cases there
  | some status =>
    rw [given] at there
    obtain ⟨_, fits⟩ := Shape.fits_given (s := .optional Api.Schema.podStatus) h given rfl
    have fits : ∃ d, Shape.fits c d Api.Schema.containerStatus = true :=
      fits_itemsUnder fits rfl rfl c there
    obtain ⟨_, fits⟩ := fits
    cases count : c.given? "restartCount" with
    | none => exact zero
    | some found =>
      obtain ⟨_, fits⟩ := Shape.fits_given (s := .optional .int32) fits count rfl
      cases found with
      | int n => exact narrow_of_fits fits
      | null | bool | float | text | list | object => exact zero

/-- Such counts are added up as they are written: `Int32.ofInt` changes none of them. -/
theorem toInt_counted (narrow : ∀ n ∈ restartCounts j, Narrow n) :
    (counted j).map Int32.toInt = restartCounts j := by
  rw [counted, restartCounts, List.map_map]
  refine List.map_congr_left fun c mem => ?_
  exact toInt_ofInt (narrow _ (List.mem_map_of_mem mem))

/-- What `Manifest.pod` makes of the restart counts in a manifest. -/
structure AddsUp (j : Json) : Prop where
  /-- Each count is one of 32 bits, and so is kept as it is. -/
  narrow : ∀ n ∈ restartCounts j, Narrow n
  /-- The pod's number of restarts is the exact sum, if no partial sum takes more than 32 bits. -/
  exact_iff : ∀ total, (pod j).map (·.restarts.toInt) = .ok total ↔
    total = (restartCounts j).sum ∧ StaysNarrow (restartCounts j)
  /-- Otherwise there is no pod, and no number. -/
  overflow_iff : pod j = .error .overflow ↔ ¬ StaysNarrow (restartCounts j)
  /-- If no count is negative, no partial sum takes more unless the whole sum does. -/
  natural : (∀ n ∈ restartCounts j, 0 ≤ n) →
    (StaysNarrow (restartCounts j) ↔ Narrow (restartCounts j).sum)

/-- Every manifest that fits `Schema.pod` adds up or overflows as `AddsUp` says. -/
theorem addsUp_of_fits (h : Shape.fits j depth Api.Schema.pod = true) : AddsUp j := by
  have narrow := narrow_restartCounts h
  -- the two cases of `pod_cases`, with the counts as they stand in the manifest
  have cases := pod_cases j
  rw [toInt_counted narrow] at cases
  rcases cases with ⟨stays, p, read, exact⟩ | ⟨leaves, failed⟩
  · refine ⟨narrow, fun total => ?_, ?_, staysNarrow_iff⟩
    · simp [read, Except.map, exact, stays, eq_comm]
    · simp [read, stays]
  · refine ⟨narrow, fun total => ?_, ?_, staysNarrow_iff⟩
    · simp [failed, Except.map, leaves]
    · simp [failed, leaves]

end Manifest

namespace Api

open Json (Shape)

/-! ## The manifests that a server sends

A failure is told to the client unless it is `fatal`, and only `overflow` is. So for each function
on the way it is shown that its failures are not fatal. -/

theorem Body.whole_not_fatal {b : Body} {cause : ClusterFailure} (h : b.whole = .error cause) :
    cause.fatal = false := by
  cases b with
  | document | text => cases h
  | log arrivals =>
    simp only [Body.whole] at h
    split at h
    · cases h
      rfl
    · split at h
      · cases h
      · cases h
        rfl

/-- A document that fits the shape, or a failure that is told. -/
def Body.Outcome (shape : Shape) (result : Except ClusterFailure Json) : Prop :=
  (∃ j, result = .ok j ∧ Shape.fits j Json.Reader.depthLimit shape = true) ∨
    ∃ cause, result = .error cause ∧ cause.fatal = false

theorem Body.outcome_whole (b : Body) (shape : Shape) :
    Outcome shape (b.whole.bind fun s => (Json.read shape s).mapError .unreadable) := by
  cases whole : b.whole with
  | error cause => exact Or.inr ⟨cause, rfl, Body.whole_not_fatal whole⟩
  | ok s =>
    rw [Except.bind]
    cases text : Json.read shape s with
    | error fault => exact Or.inr ⟨.unreadable fault, rfl, rfl⟩
    | ok j => exact Or.inl ⟨j, rfl, Json.fits_of_read text⟩

/-- What is read of a body, of whatever kind, fits the shape that was wanted, or the failure is
    told. A document that does not fit is read again from its text, so that the failure can say what
    is wrong. -/
theorem Body.outcome_read (b : Body) (shape : Shape) : Outcome shape (b.read shape) := by
  unfold Body.read
  split
  · split
    next fits => exact Or.inl ⟨_, rfl, fits⟩
    next => exact outcome_whole ..
  · exact outcome_whole ..

namespace Server

theorem send_not_fatal {s : Server} {r : Request} {cause : ClusterFailure}
    (h : (s.send r).1 = .error cause) : cause.fatal = false := by
  unfold send at h
  split at h
  · cases h
    rfl
  · split at h
    · cases h
      rfl
    · split at h
      · split at h
        · cases h
          rfl
        next failed =>
          cases h
          exact Body.whole_not_fatal failed
      · cases h

/-- The manifests that the server sends for the pods of a selector. -/
def manifests (s : Server) (ns : String) (selector : Labels) : Except ClusterFailure (List Json) :=
  (s.send (.list ns (Selector.text selector))).1.bind fun body =>
    (body.read Schema.podList).map (Manifest.itemsUnder "items")

variable {s : Server} {ns : String} {selector : Labels}

/-- `listPods` is `manifests`, and then `Manifest.pod` on each. -/
theorem listPods_eq (s : Server) (ns : String) (selector : Labels) :
    (s.listPods ns selector).1 = (s.manifests ns selector).bind (·.mapM Manifest.pod) := by
  unfold listPods manifests
  dsimp only
  cases sent : s.send (.list ns (Selector.text selector)) with
  | mk outcome s' =>
    cases outcome with
    | error cause => rfl
    | ok body =>
      dsimp only [Except.bind]
      cases body.read Schema.podList with
      | error cause => rfl
      | ok j => rfl

/-- A server that nothing disturbs sends the manifests that it keeps and the selector's text admits.
    -/
theorem manifests_quiet (quiet : s.disturbances = []) (own : Piece ns)
    (sent : (Request.list ns (Selector.text selector)).target =
      .ok ⟨(Request.list ns (Selector.text selector)).path,
        (Request.list ns (Selector.text selector)).query?⟩)
    (fits : ∀ j ∈ s.select ns (Selector.text selector), Shape.fits j 125 Schema.pod = true) :
    s.manifests ns selector = .ok (s.select ns (Selector.text selector)) := by
  rw [manifests, send_list quiet own sent, Except.bind, read_listing fits]
  rfl

/-- What is sent are manifests that fit `Schema.pod`, or a failure that is told. -/
theorem manifests_cases (s : Server) (ns : String) (selector : Labels) :
    (∃ js, s.manifests ns selector = .ok js ∧
        ∀ j ∈ js, ∃ depth, Shape.fits j depth Schema.pod = true) ∨
      ∃ cause, s.manifests ns selector = .error cause ∧ cause.fatal = false := by
  unfold manifests
  cases sent : (s.send (.list ns (Selector.text selector))).1 with
  | error cause => exact Or.inr ⟨cause, rfl, send_not_fatal sent⟩
  | ok body =>
    rw [Except.bind]
    rcases body.outcome_read Schema.podList with ⟨j, read, fits⟩ | ⟨cause, failed, told⟩
    · rw [read]
      exact Or.inl ⟨_, rfl, Manifest.fits_itemsUnder fits rfl rfl⟩
    · rw [failed]
      exact Or.inr ⟨cause, rfl, told⟩

end Server

end Api

end PodTail
