import PodTail.Proofs.Api.Mirror
import PodTail.Proofs.Lookup.Route

/-!
# Which pods a workload reaches

The pods of a workload are asked for by one label, whose value is the workload's name as it came in.
`Selector.text` does not escape the name, and the server cuts the text at its commas. So the pods
are asked to carry the name up to its first comma, its `heading`, and whatever stands behind the
comma is asked for besides (`Selector.terms_ofCapp`).

`reaches_heading` is the law that holds for all names: what is listed for a workload, and what a
request for it is resolved to, is labelled with the heading. For a name without a comma the heading
is the name, and the list has all such pods. With a comma it has pods of another workload
(`comma_goes_astray`).

Two things are needed on the way. A manifest that carries a term in the server's eyes has the label
when it is read as a pod (`Server.get?_labels`), which holds if it carries no label twice
(`KeepsPods`). And the pod that a workload is resolved to is one of the list
(`Lookup.resolve_picks`).
-/

set_option autoImplicit false

namespace PodTail

/-! ## Labels that are read back

`Labels.ofList` sets one label after the other, and so the last of several under one key wins;
`List.lookup` finds the first. Where no key stands twice they agree. -/

section

variable {α : Type} {key : String} {e : String × α} {l : List (String × α)}

theorem lookup_eq_ite : (e :: l).lookup key = if key = e.1 then some e.2 else l.lookup key := by
  rw [List.lookup_cons]
  by_cases same : key = e.1
  · rw [if_pos same, beq_iff_eq.mpr same]
  · rw [if_neg same, beq_eq_false_iff_ne.mpr same]

theorem lookup_of_fresh (fresh : key ∉ l.map Prod.fst) : l.lookup key = none := by
  refine List.lookup_eq_none_iff.mpr fun p mem => bne_iff_ne.mpr fun same => fresh ?_
  exact same ▸ List.mem_map_of_mem mem

/-- Looking up in a list whose values were mapped and partly dropped is looking up first and mapping
    then. -/
theorem lookup_filterMap {β : Type} (f : α → Option β) (key : String)
    (once : (l.map Prod.fst).Nodup) :
    (l.filterMap fun e => (f e.2).map fun b => (e.1, b)).lookup key = (l.lookup key).bind f := by
  induction l with
  | nil => rfl
  | cons e l ih =>
    obtain ⟨fresh, once⟩ := List.nodup_cons.mp once
    rw [List.filterMap_cons, lookup_eq_ite]
    by_cases same : key = e.1
    · subst same
      rw [if_pos rfl, Option.bind_some]
      cases kept : f e.2 with
      | none => simp only [Option.map_none, ih once, lookup_of_fresh fresh, Option.bind_none]
      | some b => simp only [Option.map_some, lookup_eq_ite, if_pos]
    · rw [if_neg same]
      cases kept : f e.2 with
      | none => exact ih once
      | some b => simp only [Option.map_some, lookup_eq_ite, if_neg same, ih once]

theorem keys_filterMap {β : Type} (f : α → Option β) (l : List (String × α)) :
    List.Sublist ((l.filterMap fun e => (f e.2).map fun b => (e.1, b)).map Prod.fst)
      (l.map Prod.fst) := by
  induction l with
  | nil => exact List.Sublist.refl _
  | cons e l ih =>
    rw [List.filterMap_cons]
    cases f e.2 with
    | none => exact ih.cons _
    | some b => exact ih.cons_cons _

end

namespace Labels

theorem lookup_place (key value other : String) (l : List (String × String)) :
    (place key value l).lookup other = if other = key then some value else l.lookup other := by
  induction l with
  | nil => rw [place, lookup_eq_ite]
  | cons e l ih =>
    unfold place
    split
    · rw [lookup_eq_ite]
    split
    next same =>
      subst same
      rw [lookup_eq_ite, lookup_eq_ite]
      split <;> rfl
    next differs =>
      rw [lookup_eq_ite, lookup_eq_ite, ih]
      by_cases here : other = e.1
      · rw [if_pos here, if_pos here, if_neg fun same => differs (same.symm.trans here)]
      · rw [if_neg here, if_neg here]

theorem get?_put (l : Labels) (key value other : String) :
    (l.put key value).get? other = if other = key then some value else l.get? other :=
  lookup_place key value other l.entries

theorem get?_foldl {settings : List (String × String)} (once : (settings.map Prod.fst).Nodup)
    (l : Labels) (key : String) :
    (settings.foldl (fun l e => l.put e.1 e.2) l).get? key =
      (settings.lookup key).or (l.get? key) := by
  induction settings generalizing l with
  | nil => rfl
  | cons e settings ih =>
    -- the rest of the settings does not set this key again, so what is put now stays
    obtain ⟨fresh, once⟩ := List.nodup_cons.mp once
    rw [List.foldl_cons, ih once, get?_put, lookup_eq_ite]
    by_cases same : key = e.1
    · subst same
      rw [if_pos rfl, if_pos rfl, lookup_of_fresh fresh]
      rfl
    · rw [if_neg same, if_neg same]

/-- Labels made from settings without a repeated key are those settings. -/
theorem get?_ofList {settings : List (String × String)} (once : (settings.map Prod.fst).Nodup)
    (key : String) : (ofList settings).get? key = settings.lookup key := by
  rw [ofList, get?_foldl once]
  exact Option.or_none

end Labels

/-! ## What the pods of a workload are asked to carry -/

namespace Selector

/-- A name up to its first comma. -/
def heading (name : String) : String :=
  String.ofList (Cut.before ',' name.toList)

theorem heading_eq_iff {name : String} : heading name = name ↔ ',' ∉ name.toList := by
  rw [← Cut.before_eq_iff, heading]
  constructor
  · intro same
    rw [← String.toList_ofList (l := Cut.before ',' name.toList), same]
  · intro same
    rw [same, String.ofList_toList]

variable {label name : String}

theorem text_ofCapp (label name : String) : text (ofCapp label name) = term (label, name) := by
  simp [text, ofCapp, Labels.single, Labels.put, Labels.place, Labels.empty]

/-- The first term asks for the heading of the name. -/
theorem terms_ofCapp (name : String) (comma : ',' ∉ label.toList) (equals : '=' ∉ label.toList) :
    ∃ more, terms (text (ofCapp label name)) = some (label, heading name) :: more := by
  -- the label holds no comma, so the first comma is one of the name
  have first : Cut.before ',' (term (label, name)).toList =
      label.toList ++ '=' :: Cut.before ',' name.toList := by
    rw [toList_term, Cut.before_append comma, Cut.before, Cut.before,
      List.takeWhile_cons_of_pos (by decide)]
  obtain ⟨more, eq⟩ := Cut.every_head ',' (term (label, name)).toList
  rw [text_ofCapp, terms, eq, first, List.map_cons, Cut.first_append equals, Option.map_some,
    String.ofList_toList]
  exact ⟨_, rfl⟩

/-- If the name holds no comma, that is the only term. -/
theorem terms_ofCapp_plain (comma : ',' ∉ label.toList) (equals : '=' ∉ label.toList)
    (plain : ',' ∉ name.toList) : terms (text (ofCapp label name)) = [some (label, name)] := by
  refine terms_text (List.cons_ne_nil _ _) fun e mem => ?_
  obtain rfl := List.mem_singleton.mp mem
  exact ⟨comma, equals, plain⟩

end Selector

namespace Api

namespace Server

/-! ## What a manifest carries -/

theorem members_given (key : String) (j : Json) :
    ((j.given? key).getD .null).members = ((j.member? key).map Json.members).getD [] := by
  unfold Json.given?
  split
  next null => rw [null]; rfl
  next => cases j.member? key <;> rfl

/-- The labels that a pod is read with are those that the server finds in its manifest. The two take
    different ways to them: `Manifest.labels` by `given?`, which passes over null, and `labelsOf` by
    `member?`. -/
theorem get?_labels {j : Json} (once : ((labelsOf j).map Prod.fst).Nodup) (key : String) :
    (Manifest.labels j).get? key = ((labelsOf j).lookup key).bind Json.text? := by
  have about : ((((j.given? "metadata").getD .null).given? "labels").getD .null).members =
      labelsOf j := by
    rw [members_given, labelsOf]
    congr 2
    unfold Json.given?
    split
    next null => rw [null]; rfl
    next => cases j.member? "metadata" <;> rfl
  have same : Manifest.labels j = Labels.ofList ((labelsOf j).filterMap fun e =>
      e.2.text?.map fun text => (e.1, text)) := by
    rw [← about]
    rfl
  have kept := once.sublist (keys_filterMap Json.text? (labelsOf j))
  rw [same, Labels.get?_ofList kept, lookup_filterMap Json.text? key once]

/-! ## The pods of a workload -/

/-- The server keeps manifests that can be read in a list and carry no label twice. -/
structure KeepsPods (s : Server) : Prop where
  fits : ∀ q ∈ s.pods, Json.Shape.fits q.2 125 Schema.pod = true
  once : ∀ q ∈ s.pods, ((labelsOf q.2).map Prod.fst).Nodup

/-- The server keeps the pod in the namespace, under the label with the value. -/
def Holds (s : Server) (ns label value : String) (p : Pod) : Prop :=
  (∃ j, (ns, j) ∈ s.pods ∧ Manifest.pod j = .ok p) ∧ p.labels.get? label = some value

/-- The server keeps a manifest in the namespace, under the label with the value, whose restart
    counts do not add up. -/
def Overflows (s : Server) (ns label value : String) : Prop :=
  ∃ j, (ns, j) ∈ s.pods ∧ (Manifest.labels j).get? label = some value ∧
    Manifest.pod j = .error .overflow

variable {s : Server} {ns label name : String}

theorem mem_select {selector : String} {j : Json} :
    j ∈ s.select ns selector ↔ (ns, j) ∈ s.pods ∧ carries selector j = true := by
  simp only [select, List.mem_map, List.mem_filter, Bool.and_eq_true, decide_eq_true_eq]
  constructor
  · rintro ⟨⟨_, _⟩, ⟨mem, rfl, carried⟩, rfl⟩
    exact ⟨mem, carried⟩
  · rintro ⟨mem, carried⟩
    exact ⟨(ns, j), ⟨mem, rfl, carried⟩, rfl⟩

/-- `listPods` reads the manifests that the selector's text admits, unless the request is not sent.
    -/
theorem listPods_quiet (quiet : s.disturbances = []) (own : Piece ns) (keeps : s.KeepsPods)
    (selector : Labels) :
    (∃ cause, (s.listPods ns selector).1 = .error (.unsendable cause)) ∨
      (s.listPods ns selector).1 = (s.select ns (Selector.text selector)).mapM Manifest.pod := by
  have pieces : ∀ name ∈ (Request.list ns (Selector.text selector)).names, Piece name := by
    simp [Request.names, own]
  have fits : ∀ j ∈ s.select ns (Selector.text selector),
      Json.Shape.fits j 125 Schema.pod = true :=
    fun j mem => keeps.fits (ns, j) (mem_select.mp mem).1
  unfold listPods
  rcases Request.target_cases pieces with sent | ⟨cause, unsent⟩
  · refine Or.inr ?_
    simp only [send_list quiet own sent, read_listing fits, items_listing]
  · refine Or.inl ⟨cause, ?_⟩
    simp only [send_unsent unsent]

/-- The outcomes of `listPods`: the request is not sent, or a manifest that the selector's text
    admits does not add up, or the pods of all that it admits are listed. -/
theorem listPods_cases (quiet : s.disturbances = []) (own : Piece ns) (keeps : s.KeepsPods)
    (selector : Labels) :
    (∃ cause, (s.listPods ns selector).1 = .error (.unsendable cause)) ∨
      ((s.listPods ns selector).1 = .error .overflow ∧
        ∃ j, (ns, j) ∈ s.pods ∧ carries (Selector.text selector) j = true ∧
          Manifest.pod j = .error .overflow) ∨
      ∃ pods, (s.listPods ns selector).1 = .ok pods ∧
        ∀ p, p ∈ pods ↔ ∃ j, (ns, j) ∈ s.pods ∧ carries (Selector.text selector) j = true ∧
          Manifest.pod j = .ok p := by
  refine (listPods_quiet quiet own keeps selector).imp_right fun sent => ?_
  rw [sent]
  rcases Manifest.mapM_pod_cases (s.select ns (Selector.text selector)) with
    ⟨pods, read, describe⟩ | ⟨failed, j, picked, overflows⟩
  · refine Or.inr ⟨pods, read, fun p => describe.mem_iff.trans (exists_congr fun j => ?_)⟩
    rw [mem_select, and_assoc]
  · obtain ⟨there, carried⟩ := mem_select.mp picked
    exact Or.inl ⟨failed, j, there, carried, overflows⟩

/-- A manifest that carries the selector of a workload is labelled with the heading of its name. -/
theorem heading_of_carries (comma : ',' ∉ label.toList) (equals : '=' ∉ label.toList)
    (keeps : s.KeepsPods) {j : Json} (mem : (ns, j) ∈ s.pods)
    (carried : carries (Selector.text (Selector.ofCapp label name)) j = true) :
    (Manifest.labels j).get? label = some (Selector.heading name) := by
  obtain ⟨more, terms⟩ := Selector.terms_ofCapp name comma equals
  rw [carries, terms, List.all_cons, Bool.and_eq_true] at carried
  rw [get?_labels (keeps.once _ mem)]
  exact beq_iff_eq.mp carried.1

/-- For a name without a comma it carries the selector exactly if it is labelled with the name. -/
theorem carries_iff_of_plain (comma : ',' ∉ label.toList) (equals : '=' ∉ label.toList)
    (plain : ',' ∉ name.toList) (keeps : s.KeepsPods) {j : Json} (mem : (ns, j) ∈ s.pods) :
    carries (Selector.text (Selector.ofCapp label name)) j = true ↔
      (Manifest.labels j).get? label = some name := by
  rw [carries, Selector.terms_ofCapp_plain comma equals plain, get?_labels (keeps.once _ mem)]
  simp

end Server

end Api

/-! ## The pod that is picked -/

namespace Lookup

variable {σ : Type} {c : Cluster σ} {label : String} {t : Target}

theorem choose_mem {candidates : List Pod} {p : Pod} (chosen : choose t candidates = .found p) :
    p ∈ candidates := by
  cases candidates with
  | nil => cases chosen
  | cons q qs =>
    cases named : t.pod with
    | none =>
      simp only [choose, named] at chosen
      cases chosen
      exact List.mem_cons_self
    | some wanted =>
      simp only [choose, named] at chosen
      split at chosen
      next found =>
        cases chosen
        exact List.mem_of_find?_eq_some found
      next => cases chosen

/-- A workload is resolved to a pod of the list that the cluster has given. -/
theorem resolve_picks {s : σ} {e : Endpoint} (kind : t.kind = .capp)
    (resolved : ((resolve label t).run c s).1 = .ok e) :
    ∃ pods, (c.list s t.ns (Selector.ofCapp label t.identifier)).1 = .ok pods ∧
      ∃ p ∈ pods, p.name = e.pod := by
  simp only [resolve, kind, resolveCapp, bind, run] at resolved
  cases listed : (c.list s t.ns (Selector.ofCapp label t.identifier)).1 with
  | error cause =>
    rw [listed] at resolved
    cases resolved
  | ok pods =>
    refine ⟨pods, rfl, ?_⟩
    rw [listed] at resolved
    rcases choose_cases t t.ns (Selector.ofCapp label t.identifier) pods with
      ⟨why, chosen, _⟩ | ⟨p, chosen, _⟩
    · simp only [chosen, bind] at resolved
      cases resolved
    · simp only [chosen, bind] at resolved
      cases resolved
      exact ⟨p, choose_mem chosen, rfl⟩

end Lookup

namespace Api

namespace Server

/-- **A workload reaches the pods under the heading of its name.** On a server that nothing
    disturbs, for whatever name: every pod that is listed for the workload, and every pod that a
    request for it is resolved to, is one of the namespace and is labelled with the name up to its
    first comma. For a name without a comma that is the name, and the list holds all pods that are
    labelled so, unless the request cannot be sent or the restart counts of one of them do not add
    up (`Manifest.add`), in which case there is no list. -/
theorem reaches_heading (s : Server) (ns label name : String) (quiet : s.disturbances = [])
    (own : Piece ns) (comma : ',' ∉ label.toList) (equals : '=' ∉ label.toList)
    (keeps : s.KeepsPods) :
    (∀ pods, (s.listPods ns (Selector.ofCapp label name)).1 = .ok pods →
        ∀ p ∈ pods, s.Holds ns label (Selector.heading name) p) ∧
      (∀ (t : Target) (e : Endpoint), t.kind = .capp → t.ns = ns → t.identifier = name →
        ((Lookup.resolve label t).run cluster s).1 = .ok e →
          ∃ p, p.name = e.pod ∧ s.Holds ns label (Selector.heading name) p) ∧
      (Selector.heading name = name ↔ ',' ∉ name.toList) ∧
      (',' ∉ name.toList →
        (∃ cause, (s.listPods ns (Selector.ofCapp label name)).1 = .error (.unsendable cause)) ∨
          ((s.listPods ns (Selector.ofCapp label name)).1 = .error .overflow ∧
            s.Overflows ns label name) ∨
          ∃ pods, (s.listPods ns (Selector.ofCapp label name)).1 = .ok pods ∧
            ∀ p, p ∈ pods ↔ s.Holds ns label name p) := by
  have outcome := listPods_cases quiet own keeps (Selector.ofCapp label name)
  -- used twice: for the list, and for the list that a request is resolved from
  have listed : ∀ pods, (s.listPods ns (Selector.ofCapp label name)).1 = .ok pods →
      ∀ p ∈ pods, s.Holds ns label (Selector.heading name) p := by
    intro pods answered p mem
    rcases outcome with ⟨cause, unsent⟩ | ⟨overflows, -⟩ | ⟨found, sent, members⟩
    · simp [unsent] at answered
    · simp [overflows] at answered
    · obtain rfl := Except.ok.inj (sent.symm.trans answered)
      obtain ⟨j, there, carried, read⟩ := (members p).mp mem
      refine ⟨⟨j, there, read⟩, ?_⟩
      rw [Manifest.labels_of_read read]
      exact heading_of_carries comma equals keeps there carried
  refine ⟨listed, ?_, Selector.heading_eq_iff, ?_⟩
  · rintro t e kind rfl rfl resolved
    obtain ⟨pods, answered, p, mem, name⟩ := Lookup.resolve_picks kind resolved
    exact ⟨p, name, listed pods answered p mem⟩
  · intro plain
    refine outcome.imp_right (Or.imp ?_ ?_)
    · rintro ⟨overflows, j, there, carried, failed⟩
      exact ⟨overflows, j, there,
        (carries_iff_of_plain comma equals plain keeps there).mp carried, failed⟩
    · rintro ⟨pods, sent, members⟩
      refine ⟨pods, sent, fun p => (members p).trans ?_⟩
      constructor
      · rintro ⟨j, there, carried, read⟩
        refine ⟨⟨j, there, read⟩, ?_⟩
        rw [Manifest.labels_of_read read]
        exact (carries_iff_of_plain comma equals plain keeps there).mp carried
      · rintro ⟨⟨j, there, read⟩, labelled⟩
        rw [Manifest.labels_of_read read] at labelled
        exact ⟨j, there, (carries_iff_of_plain comma equals plain keeps there).mpr labelled, read⟩

/-- A server with one pod, of the workload `shop` and the tier `web`. -/
def oneShop : Server where
  pods := [("ns", .object
    [("metadata", .object
      [("name", .text "front"), ("labels", .object [("app", .text "shop"), ("tier", .text "web")])]),
    ("spec", .object [("containers", .list [.object [("name", .text "shop")]])])])]
  records := []
  disturbances := []
  asked := []
  seen := []
  opened := 0
  closed := 0

theorem oneShop_keepsPods : oneShop.KeepsPods where
  fits := by
    simp only [oneShop, List.mem_singleton, forall_eq]
    decide +kernel
  once := by
    simp only [oneShop, List.mem_singleton, forall_eq]
    decide +kernel

/-- `reaches_heading` on `oneShop`, where the list for `shop` is not empty. -/
theorem reaches_shop :
    (oneShop.disturbances = [] ∧ Piece "ns" ∧ ',' ∉ "app".toList ∧ '=' ∉ "app".toList ∧
        oneShop.KeepsPods) ∧
      ((oneShop.listPods "ns" (Selector.ofCapp "app" "shop")).1.toOption.map (·.map (·.name))) =
        some ["front"] ∧
      ∀ pods, (oneShop.listPods "ns" (Selector.ofCapp "app" "shop")).1 = .ok pods →
        ∀ p ∈ pods, oneShop.Holds "ns" "app" (Selector.heading "shop") p := by
  have quiet : oneShop.disturbances = [] := rfl
  have own : Piece "ns" := ⟨by decide, by decide, by decide⟩
  have comma : ',' ∉ "app".toList := by decide
  have equals : '=' ∉ "app".toList := by decide
  have keeps := oneShop_keepsPods
  refine ⟨⟨quiet, own, comma, equals, keeps⟩, by decide +kernel, ?_⟩
  exact (reaches_heading oneShop "ns" "app" "shop" quiet own comma equals keeps).1

/-- No pod is labelled `shop,tier=web`. The list for the workload of that name has the pod of the
    workload `shop`, and a request for it is resolved to that pod. -/
theorem comma_goes_astray :
    (∀ p, ¬ oneShop.Holds "ns" "app" "shop,tier=web" p) ∧
      ((oneShop.listPods "ns" (Selector.ofCapp "app" "shop,tier=web")).1.toOption.map
        (·.map fun p => (p.name, p.labels.get? "app"))) = some [("front", some "shop")] ∧
      ((Lookup.resolve "app" (.ofCapp "ns" "shop,tier=web" none none)).run cluster
        oneShop).1.toOption = some ⟨"front", "shop,tier=web"⟩ := by
  refine ⟨?_, by decide +kernel, by decide +kernel⟩
  rintro p ⟨⟨j, there, read⟩, labelled⟩
  obtain ⟨_, rfl⟩ := Prod.mk.inj (List.mem_singleton.mp there)
  rw [Manifest.labels_of_read read] at labelled
  revert labelled
  decide +kernel

end Server

end Api

end PodTail
