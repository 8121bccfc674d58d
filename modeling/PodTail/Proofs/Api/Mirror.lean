import Mathlib.Data.List.Forall2
import PodTail.Cluster.Memory
import PodTail.Proofs.Api.Manifest
import PodTail.Proofs.Api.Reading
import PodTail.Proofs.Feed.Lines
import PodTail.Proofs.Json.Shape
import PodTail.Proofs.Lookup.Selector

/-!
# A server that holds what a memory holds

A cluster in memory keeps pods and lines, an API server manifests and bytes. `Mirrors m s` relates
them: pod by pod a manifest that `Renders` the pod, and log by log the lines in any pieces
(`Delivers`). It follows that the same pods are found in both under a name (`Mirrors.find`) and
under a selector, in the same order (`Mirrors.select`), and the same lines in a log
(`Mirrors.lines`).

`Renders` does not say what a manifest looks like. It asks that `Manifest.pod` reads the pod from
it, and that the server finds the pod's name and labels in it. The server looks at these two only,
and never reads the rest.
-/

set_option autoImplicit false

namespace PodTail

namespace Api

/-- The manifest is read as the pod, and the server finds the pod's name and labels in it. -/
structure Renders (p : Pod) (j : Json) : Prop where
  /-- It can be read by itself and in a list, which takes two more levels. -/
  fits : Json.Shape.fits j 125 Schema.pod = true
  read : Manifest.pod j = .ok p
  name : Server.nameOf j = some p.name
  labels : ∀ key, ((Server.labelsOf j).lookup key).bind Json.text? = p.labels.get? key

/-- A manifest that is sent by itself is read as its pod. -/
theorem Renders.body {p : Pod} {j : Json} (renders : Renders p j) :
    ((Body.document j).read Schema.pod).bind Manifest.pod = .ok p := by
  have fits := Json.Shape.fits_mono (show 125 ≤ Json.Reader.depthLimit by decide) renders.fits
  rw [Body.read, fits, if_pos rfl, Except.bind, renders.read]

theorem fits_listing (manifests : List Json) :
    Json.Shape.fits (Server.listing manifests) Json.Reader.depthLimit Schema.podList =
      (Json.Shape.fitsItems manifests 125 Schema.pod && true) :=
  rfl

/-- A list of manifests that can be read one by one can be read. -/
theorem read_listing {manifests : List Json}
    (fits : ∀ j ∈ manifests, Json.Shape.fits j 125 Schema.pod = true) :
    (Body.document (Server.listing manifests)).read Schema.podList =
      .ok (Server.listing manifests) := by
  rw [Body.read, fits_listing, Json.Shape.fitsItems_of_forall fits, Bool.and_self, if_pos rfl]

theorem items_listing (manifests : List Json) :
    Manifest.itemsUnder "items" (Server.listing manifests) = manifests :=
  rfl

/-- Manifests that are sent as a list are read as their pods. -/
theorem listing_body {pods : List Pod} {manifests : List Json}
    (renders : List.Forall₂ Renders pods manifests) :
    (Body.document (Server.listing manifests)).read Schema.podList =
        .ok (Server.listing manifests) ∧
      manifests.mapM Manifest.pod = .ok pods := by
  constructor
  · refine read_listing ?_
    induction renders with
    | nil => simp
    | cons first _ ih => exact List.forall_mem_cons.mpr ⟨first.fits, ih⟩
  · have describe : Manifest.Describe manifests pods := renders.flip.imp fun _ _ renders => renders.read
    exact describe.mapM

/-- What arrives for a log are its lines, in whatever pieces. -/
structure Delivers (kept : Memory.Record) (sent : Record) : Prop where
  pod : sent.pod = kept.pod
  container : sent.container = kept.container
  clear : ∀ line ∈ kept.lines, Feed.Clear line
  pieces : ∃ pieces : List (List UInt8),
    sent.arrivals = pieces.map .chunk ∧ pieces.flatten = Feed.written kept.lines

/-- The server holds what the memory holds, and nothing disturbs it. -/
structure Mirrors (m : Memory) (s : Server) : Prop where
  quiet : s.disturbances = []
  closes : m.ending = .close
  pods : List.Forall₂ (fun p q => p.1 = q.1 ∧ Renders p.2 q.2) m.pods s.pods
  records : List.Forall₂ Delivers m.records s.records
  /-- No container has two logs. -/
  once : m.records.Pairwise fun r r' => ¬ (r.pod = r'.pod ∧ r.container = r'.container)
  opened : s.opened = m.opened
  closed : s.closed = m.closed

/-! ## Lists that correspond

The server filters and searches its lists as the memory does its own, by predicates that agree on
items that correspond. -/

section

variable {α β : Type} {R : α → β → Prop} {l : List α} {l' : List β} {p : α → Bool} {q : β → Bool}

/-- Lists that correspond still do so when they are filtered by predicates that agree. -/
theorem filter_related (h : List.Forall₂ R l l') (same : ∀ a b, R a b → p a = q b) :
    List.Forall₂ R (l.filter p) (l'.filter q) :=
  List.rel_filter (fun a b related => Bool.eq_iff_iff.mp (same a b related)) h

theorem find_related (h : List.Forall₂ R l l') (same : ∀ a b, R a b → p a = q b) :
    Option.Rel R (l.find? p) (l'.find? q) := by
  have picked := filter_related h same
  rw [← List.head?_filter, ← List.head?_filter]
  generalize l.filter p = picks, l'.filter q = picks' at picked
  cases picked with
  | nil => exact .none
  | cons related _ => exact .some related

/-- If at most one item satisfies a predicate, it does not matter from which end it is looked for.
    The memory keeps its last log under a name, and the server its first. -/
theorem find_reverse (once : l.Pairwise fun a b => ¬ (p a = true ∧ p b = true)) :
    l.reverse.find? p = l.find? p := by
  induction l with
  | nil => rfl
  | cons a l ih =>
    obtain ⟨here, there⟩ := List.pairwise_cons.mp once
    rw [List.reverse_cons, List.find?_append, ih there, List.find?_singleton]
    by_cases picked : p a = true
    · have none : l.find? p = none :=
        List.find?_eq_none.mpr fun b mem also => here b mem ⟨picked, also⟩
      rw [none, List.find?_cons_of_pos picked, if_pos picked]
      rfl
    · rw [List.find?_cons_of_neg picked, if_neg picked, Option.or_none]

end

namespace Mirrors

variable {m : Memory} {s : Server}

/-! ## Pods -/

theorem find (mirror : Mirrors m s) (ns name : String) :
    Option.Rel Renders (m.find? ns name) (s.find? ns name) := by
  have found := find_related mirror.pods
    (p := fun p => p.1 = ns && p.2.name = name)
    (q := fun q => q.1 = ns && Server.nameOf q.2 = some name)
    (fun p q related => by simp [related.1, related.2.name])
  unfold Memory.find? Server.find?
  generalize List.find? _ m.pods = here, List.find? _ s.pods = there at found
  cases found with
  | none => exact .none
  | some related => exact .some related.2

/-- The manifests that the selector's text admits are those of the pods that the selector covers. -/
theorem select (mirror : Mirrors m s) (ns : String) {selector : Labels}
    (asks : selector.entries ≠ []) (parted : ∀ e ∈ selector.entries, Selector.Parted e) :
    List.Forall₂ Renders (m.select ns selector) (s.select ns (Selector.text selector)) := by
  have carried : ∀ (p : Pod) (j : Json), Renders p j →
      p.labels.covers selector = Server.carries (Selector.text selector) j := by
    intro p j renders
    unfold Labels.covers Server.carries
    rw [Selector.terms_text asks parted, List.all_map]
    congr 1
    funext e
    rw [← renders.labels]
    rfl
  have picked := filter_related mirror.pods
    (p := fun p => p.1 = ns && p.2.labels.covers selector)
    (q := fun q => q.1 = ns && Server.carries (Selector.text selector) q.2)
    (fun p q related => by simp [related.1, carried _ _ related.2])
  unfold Memory.select Server.select
  rw [List.forall₂_map_left_iff, List.forall₂_map_right_iff]
  exact picked.imp fun p q related => related.2

/-! ## Logs -/

/-- The lines that the server sends for a container are those of the memory. -/
theorem lines (mirror : Mirrors m s) (pod container : String) :
    Feed.ofArrivals (s.arrivals pod container) = (m.lines pod container).map .line := by
  have found := find_related mirror.records
    (p := fun r => r.pod = pod && r.container = container)
    (q := fun r => r.pod = pod && r.container = container)
    (fun kept sent related => by simp [related.pod, related.container])
  have single : m.records.Pairwise fun r r' =>
      ¬ ((r.pod = pod && r.container = container) = true ∧
        (r'.pod = pod && r'.container = container) = true) := by
    refine mirror.once.imp fun apart both => apart ?_
    simp only [Bool.and_eq_true, decide_eq_true_eq] at both
    exact ⟨both.1.1.trans both.2.1.symm, both.1.2.trans both.2.2.symm⟩
  unfold Memory.lines Server.arrivals
  rw [find_reverse single]
  generalize List.find? _ m.records = here, List.find? _ s.records = there at found
  cases found with
  | none =>
    -- the server makes up the same line as the memory
    have written : [Utf8.bytes "fake logs\n"].flatten = Feed.written Memory.unwritten :=
      rfl
    have clear : ∀ line ∈ Memory.unwritten, Feed.Clear line := by
      simp only [Memory.unwritten, List.mem_singleton, forall_eq]
      exact ⟨by decide, by decide⟩
    exact Feed.ofArrivals_delivered clear written
  | some delivers =>
    obtain ⟨pieces, same, written⟩ := delivers.pieces
    simp only [same]
    exact Feed.ofArrivals_delivered delivers.clear written

end Mirrors

end Api

end PodTail
