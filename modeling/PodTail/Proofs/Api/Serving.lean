import PodTail.Proofs.Api.Mirror

/-!
# A server for every memory

`Mirrors` would say nothing if no server mirrored a memory. `serving m` does, for every memory of
pods without restarts and without a time of creation (`mirrors_serving`). Its manifests are written
by `manifest`, and `renders_manifest` checks them: they fit the schema (`fits_manifest`), and are
read as their pods (`read_manifest`), which needs that labels come back from their entries in order
(`Labels.ofList_entries`). Other servers mirror the memory as well, with manifests that say more and
logs in other pieces.
-/

set_option autoImplicit false

namespace PodTail

namespace Labels

/-! ## Entries in their order

`Labels` keeps its entries in the order of their keys, so entries that are in order are put in one
behind the other. -/

theorem place_last {key value : String} {l : List (String × String)}
    (before : ∀ e ∈ l, e.1 < key) : place key value l = l ++ [(key, value)] := by
  induction l with
  | nil => rfl
  | cons e l ih =>
    obtain ⟨first, others⟩ := List.forall_mem_cons.mp before
    have after : ¬ key < e.1 := fun less => String.lt_irrefl _ (String.lt_trans less first)
    have other : key ≠ e.1 := fun same => String.lt_irrefl _ (same ▸ first)
    rw [place, if_neg after, if_neg other, ih others]
    rfl

theorem foldl_put (l : Labels) (more : List (String × String))
    (ordered : (l.entries ++ more).Pairwise fun a b => a.1 < b.1) :
    (more.foldl (fun l e => l.put e.1 e.2) l).entries = l.entries ++ more := by
  induction more generalizing l with
  | nil => simp
  | cons e more ih =>
    have before : ∀ x ∈ l.entries, x.1 < e.1 := fun x mem =>
      (List.pairwise_append.mp ordered).2.2 x mem e List.mem_cons_self
    have placed : (l.put e.1 e.2).entries = l.entries ++ [e] := place_last before
    rw [List.foldl_cons, ih _ (by rwa [placed, List.append_assoc]), placed, List.append_assoc]
    rfl

theorem eq_of_entries {l l' : Labels} (h : l.entries = l'.entries) : l = l' := by
  cases l
  cases l'
  cases h
  rfl

/-- The labels of entries in key order are these entries. -/
theorem ofList_entries (l : Labels) : ofList l.entries = l :=
  eq_of_entries (foldl_put empty l.entries l.ordered)

end Labels

namespace Api

/-- A manifest with all that is known of a pod. -/
def manifest (p : Pod) : Json :=
  .object
    [("metadata", .object [("labels", .object (p.labels.entries.map fun e => (e.1, .text e.2))),
        ("name", .text p.name)]),
      ("spec", .object
        [("containers", .list (p.containers.map fun c => .object [("name", .text c)]))]),
      ("status", .object [("phase", .text p.phase)])]

theorem lookup_texts (entries : List (String × String)) (key : String) :
    ((entries.map fun e => (e.1, Json.text e.2)).lookup key).bind Json.text? =
      entries.lookup key := by
  induction entries with
  | nil => rfl
  | cons e entries ih =>
    rw [List.map_cons, List.lookup_cons, List.lookup_cons]
    split
    · rfl
    · exact ih

/-! ## Manifests fit

The fixed parts evaluate. The labels, the containers and the texts are variables, so the shape is
taken apart as far as there are fixed parts, and the lists are done by induction. -/

theorem fits_labels (entries : List (String × String)) (depth : Nat) :
    Json.Shape.fits (.object (entries.map fun e => (e.1, .text e.2))) (depth + 1)
      (.optional .textTable) = true := by
  have members : Json.Shape.fitsMembers (entries.map fun e => (e.1, Json.text e.2)) depth
      .textTable = true := by
    induction entries with
    | nil => rfl
    | cons e entries ih =>
      rw [List.map_cons, Json.Shape.fitsMembers, ih]
      rfl
  have complete : Json.Shape.textTable.complete (entries.map fun e => (e.1, Json.text e.2)) =
      true := by
    simp [Json.Shape.complete, Json.Shape.required, Json.Shape.single, Json.Shape.textTable]
  show (true && Json.Shape.textTable.complete _ && Json.Shape.fitsMembers _ depth .textTable) = true
  rw [complete, members]
  rfl

theorem fits_containers (containers : List String) (depth : Nat) :
    Json.Shape.fitsItems (containers.map fun c => .object [("name", .text c)]) (depth + 1)
      Schema.container = true :=
  Json.Shape.fitsItems_of_forall <| List.forall_mem_map.mpr fun _ _ => rfl

theorem fits_manifest (p : Pod) : Json.Shape.fits (manifest p) 125 Schema.pod = true := by
  have parts : Json.Shape.fits (manifest p) 125 Schema.pod =
      ((Json.Shape.fits (.object (p.labels.entries.map fun e => (e.1, .text e.2))) 123
          (.optional .textTable) && true) &&
        ((Json.Shape.fitsItems (p.containers.map fun c => .object [("name", .text c)]) 122
          Schema.container && true) && true)) :=
    rfl
  rw [parts, fits_labels, fits_containers]
  rfl

/-! ## Manifests are read -/

theorem labels_manifest (p : Pod) : Manifest.labels (manifest p) = p.labels := by
  -- every label is written as a text, so none is dropped when they are read
  have members : Manifest.labels (manifest p) =
      Labels.ofList ((p.labels.entries.map fun e => (e.1, Json.text e.2)).filterMap fun e =>
        e.2.text?.map fun text => (e.1, text)) :=
    rfl
  rw [members, List.filterMap_map]
  exact (congrArg Labels.ofList List.filterMap_some).trans (Labels.ofList_entries p.labels)

/-- The manifest is read as the pod. -/
theorem read_manifest {p : Pod} (restarts : p.restarts = 0) (created : p.created = none) :
    Manifest.pod (manifest p) = .ok p := by
  -- all but the containers and the labels evaluates
  have parts : Manifest.pod (manifest p) = .ok
      { name := p.name
        containers := (p.containers.map fun c => Json.object [("name", .text c)]).map fun c =>
          (Manifest.textUnder "name" c).getD ""
        labels := Manifest.labels (manifest p)
        phase := p.phase
        restarts := 0
        created := none } :=
    rfl
  have containers : ((p.containers.map fun c => Json.object [("name", .text c)]).map fun c =>
      (Manifest.textUnder "name" c).getD "") = p.containers := by
    rw [List.map_map]
    exact List.map_id _
  rw [parts, containers, labels_manifest, ← restarts, ← created]

theorem renders_manifest {p : Pod} (restarts : p.restarts = 0) (created : p.created = none) :
    Renders p (manifest p) where
  fits := fits_manifest p
  read := read_manifest restarts created
  name := rfl
  labels key := lookup_texts p.labels.entries key

/-! ## Servers -/

/-- A server that keeps what a memory holds. -/
def serving (m : Memory) : Server where
  pods := m.pods.map fun p => (p.1, manifest p.2)
  records := m.records.map fun r => ⟨r.pod, r.container, [.chunk (Feed.written r.lines)]⟩
  disturbances := []
  asked := []
  seen := []
  opened := m.opened
  closed := m.closed

/-- `serving m` mirrors `m`. -/
theorem mirrors_serving {m : Memory} (closes : m.ending = .close)
    (plain : ∀ p ∈ m.pods, p.2.restarts = 0 ∧ p.2.created = none)
    (clear : ∀ r ∈ m.records, ∀ line ∈ r.lines, Feed.Clear line)
    (once : m.records.Pairwise fun r r' => ¬ (r.pod = r'.pod ∧ r.container = r'.container)) :
    Mirrors m (serving m) where
  quiet := rfl
  closes := closes
  pods := by
    refine List.forall₂_map_right_iff.mpr (List.forall₂_same.mpr fun p mem => ⟨rfl, ?_⟩)
    exact renders_manifest (plain p mem).1 (plain p mem).2
  records := by
    refine List.forall₂_map_right_iff.mpr (List.forall₂_same.mpr fun r mem => ?_)
    exact ⟨rfl, rfl, clear r mem, [Feed.written r.lines], rfl, List.flatten_singleton⟩
  once := once
  opened := rfl
  closed := rfl

end Api

end PodTail
