import PodTail.Proofs.Json.Printer
import PodTail.Proofs.Lookup.Memory
import PodTail.Service.Handler

/-!
# What is listed can be streamed

A client may ask for a list before it asks for a log: for the containers of a pod, or for the pods
of a workload. `Handler.serve` answers the list and `Lookup.openTarget` opens the log, and each of
them asks the cluster on its own. `listed_as_opened` says that on a cluster in memory they agree in
every case.

What has been listed is read off the response: `Lists key name v number names` says that the body of
`v` is a document with that number and with objects of these names. This determines both
(`Lists.unique`), because `Json.compact` is injective on the documents that are sent
(`counted_inj`).

On the side of the lists, `containers_listed`, `containers_refused` and `pods_listed` turn a
response into what it says about the memory. On the side of the logs, the `opening_…` and
`resolving_…` lemmas do the same, from the runs of the look-up in `PodTail.Proofs.Lookup.Memory`.
The theorem joins the two.
-/

set_option autoImplicit false

namespace PodTail

namespace Handler

/-! ## Lists -/

/-- The verdict is a document with this `count`, and with a list of objects that have these names.
    -/
def Lists (key name : String) (v : Verdict) (number : Int) (names : List String) : Prop :=
  ∃ items : List Json, (∀ j ∈ items, j.Whole) ∧
    v = .answer (.json 200 (Json.object [("count", .int number), (key, .list items)]).compact) ∧
    items.map (·.member? name) = names.map fun n => some (.text n)

theorem whole_counted {key : String} {number : Int} {items : List Json}
    (whole : ∀ j ∈ items, j.Whole) :
    (Json.object [("count", .int number), (key, .list items)]).Whole :=
  .object (by simpa using ⟨.int number, Json.Whole.list whole⟩)

theorem json_inj {status status' : Nat} {body body' : String}
    (h : Response.json status body = Response.json status' body') :
    status = status' ∧ body = body' := by
  simpa [Response.json] using h

/-- The number and the items of a document can be read back from its text. -/
theorem counted_inj {key : String} {number number' : Int} {items items' : List Json}
    (whole : ∀ j ∈ items, j.Whole) (whole' : ∀ j ∈ items', j.Whole)
    (h : (Json.object [("count", .int number), (key, .list items)]).compact =
      (Json.object [("count", .int number'), (key, .list items')]).compact) :
    number = number' ∧ items = items' := by
  have same := (whole_counted whole).compact_injective (whole_counted whole') h
  simpa only [Json.object.injEq, List.cons.injEq, Prod.mk.injEq, Json.int.injEq, Json.list.injEq,
    true_and, and_true] using same

/-- A verdict lists one number and one list of names only. -/
theorem Lists.unique {key name : String} {v : Verdict} {number number' : Int}
    {names names' : List String} (h : Lists key name v number names)
    (h' : Lists key name v number' names') : number = number' ∧ names = names' := by
  obtain ⟨items, whole, rfl, named⟩ := h
  obtain ⟨items', whole', same, named'⟩ := h'
  obtain ⟨rfl, rfl⟩ := counted_inj whole whole' (json_inj (Verdict.answer.inj same)).2
  refine ⟨rfl, (List.map_inj_right ?_).mp (named.symm.trans named')⟩
  intro n n' eq
  simpa using eq

/-- A document made by `counted` lists the titles of its items, and how many there are. -/
theorem lists_counted {α : Type} {key name : String} {document : α → Json} {title : α → String}
    (whole : ∀ a, (document a).Whole)
    (named : ∀ a, (document a).member? name = some (.text (title a))) (things : List α) :
    Lists key name (.answer (.json 200 (counted key (things.map document)))) things.length
      (things.map title) := by
  refine ⟨things.map document, ?_, by rw [counted, List.length_map], ?_⟩
  · intro j mem
    obtain ⟨a, -, rfl⟩ := List.mem_map.mp mem
    exact whole a
  · simp [named]

theorem lists_containers (p : Pod) :
    Lists "containers" "containerName" (.answer (.json 200 (containersBody p))) p.containers.length
      p.containers := by
  have lists := @lists_counted String "containers" "containerName"
    (fun c => .object [("containerName", .text c)]) id
    (fun c => .object (by simpa using Json.Whole.text c)) (fun c => rfl) p.containers
  simpa [containersBody] using lists

/-- The document of a pod is a whole one: its numbers and texts are printed and can be read back. -/
theorem whole_listed (present : Instant) (p : Pod) :
    (Json.object [("podName", .text p.name), ("phase", .text p.phase),
      ("age", .text (age present p)), ("restarts", .int p.restarts.toInt),
      ("containers", .list (p.containers.map .text))]).Whole := by
  have containers : ∀ j ∈ p.containers.map Json.text, j.Whole := by
    intro j mem
    obtain ⟨c, -, rfl⟩ := List.mem_map.mp mem
    exact .text c
  refine .object ?_
  simp only [List.forall_mem_cons]
  exact ⟨.text _, .text _, .text _, .int _, .list containers, by simp⟩

theorem lists_pods (present : Instant) (pods : List Pod) :
    Lists "pods" "podName" (.answer (.json 200 (podsBody present pods))) pods.length
      (pods.map (·.name)) :=
  lists_counted (whole_listed present) (fun _ => rfl) pods

/-! ## What is listed

`serve` on the two kinds of list, over a cluster in memory. -/

section

variable (settings : Settings) (present : Instant) (m : Memory) (r : Request) (ns name : String)

theorem serve_containers :
    serve settings present Memory.cluster m r (.containers ns name) =
      (.answer ((m.find? ns name).elim (refusal (.cluster (.podNotFound name)))
        fun p => .json 200 (containersBody p)), [], m) := by
  simp only [serve, Memory.cluster_get]
  cases m.find? ns name with
  | none => rfl
  | some p => rfl

theorem containers_listed {number : Int} {cs : List String}
    (lists : Lists "containers" "containerName"
      (serve settings present Memory.cluster m r (.containers ns name)).1 number cs) :
    ∃ p, m.find? ns name = some p ∧ cs = p.containers ∧ number = cs.length := by
  rw [serve_containers] at lists
  cases found : m.find? ns name with
  | none =>
    rw [found] at lists
    -- a refusal is no list, since its status is another
    obtain ⟨items, -, same, -⟩ := lists
    have status : 404 = 200 := (json_inj (Verdict.answer.inj same)).1
    exact absurd status (by decide)
  | some p =>
    rw [found] at lists
    obtain ⟨rfl, rfl⟩ := lists.unique (lists_containers p)
    exact ⟨p, rfl, rfl, rfl⟩

theorem containers_refused {response : Response}
    (same : (serve settings present Memory.cluster m r (.containers ns name)).1 = .answer response)
    (status : response.status = 404) :
    m.find? ns name = none ∧ response = refusal (.cluster (.podNotFound name)) := by
  rw [serve_containers] at same
  cases found : m.find? ns name with
  | none =>
    rw [found] at same
    exact ⟨rfl, (Verdict.answer.inj same).symm⟩
  | some p =>
    rw [found] at same
    have status' : 200 = response.status := congrArg Response.status (Verdict.answer.inj same)
    rw [status] at status'
    exact absurd status' (by decide)

theorem pods_listed {number : Int} {ps : List String}
    (lists : Lists "pods" "podName"
      (serve settings present Memory.cluster m r (.pods ns name)).1 number ps) :
    ps = (m.select ns (Selector.ofCapp settings.cappLabel name)).map (·.name) ∧
      number = ps.length := by
  obtain ⟨rfl, rfl⟩ := lists.unique (lists_pods present _)
  exact ⟨rfl, by rw [List.length_map]⟩

end

/-! ## What is opened

The outcomes of the look-up over the same memory, by whether the client names a container or a pod.
-/

theorem chosen_some {value : String} (filled : value ≠ "") :
    Target.chosen (some value) = some value := by
  simp [Target.chosen, filled]

section

variable {m : Memory} {ns name : String} (label : String) (tail : Option Int)

/-- The outcome of opening a log of a pod. -/
def opening (m : Memory) (label : String) (tail : Option Int) (ns name : String)
    (container : Option String) : Except StreamFailure OpenLog :=
  ((Lookup.openTarget label tail (Target.ofPod ns name container)).run Memory.cluster m).1

/-- The outcome of resolving a request for a workload. -/
def resolving (m : Memory) (label ns name : String) (pod container : Option String) :
    Except StreamFailure Endpoint :=
  ((Lookup.resolve label (Target.ofCapp ns name pod container)).run Memory.cluster m).1

theorem opening_missing (found : m.find? ns name = none) (container : Option String) :
    opening m label tail ns name container =
      .error (.podLookupFailed name (.podNotFound name)) := by
  unfold opening Target.ofPod
  cases Target.chosen container with
  | none => rw [Lookup.run_openTarget_none, found]
  | some c => rw [Lookup.run_openTarget_some, found]

variable {p : Pod}

theorem opening_some (found : m.find? ns name = some p) {c : String} (filled : c ≠ "") :
    ((∃ source, opening m label tail ns name (some c) = .ok source) ↔ c ∈ p.containers) ∧
      (c ∉ p.containers →
        opening m label tail ns name (some c) = .error (.containerNotFound name c)) := by
  unfold opening Target.ofPod
  rw [chosen_some filled, Lookup.run_openTarget_some, found]
  by_cases has : c ∈ p.containers
  · simp [has]
  · simp [has]

theorem opening_none (found : m.find? ns name = some p) :
    (∃ source, opening m label tail ns name none = .ok source) ↔ p.containers.length = 1 := by
  show (∃ source, ((Lookup.openTarget label tail ⟨ns, .pod, name, none, none⟩).run
    Memory.cluster m).1 = .ok source) ↔ _
  rw [Lookup.run_openTarget_none, found]
  -- none, one, or several
  cases containers : p.containers with
  | nil => simp [containers]
  | cons only more =>
    cases more with
    | nil => simp [containers]
    | cons second more => simp [containers]

theorem resolving_empty (pod container : Option String) :
    resolving m label ns name pod container = .error (.noPodsForWorkload name ns) ↔
      (m.select ns (Selector.ofCapp label name)).map (·.name) = [] := by
  unfold resolving Target.ofCapp
  cases Target.chosen pod with
  | none =>
    rw [Lookup.run_resolve_first]
    cases (m.select ns (Selector.ofCapp label name)).map (·.name) with
    | nil => simp
    | cons first more => simp
  | some wanted =>
    rw [Lookup.run_resolve_named]
    split
    · next none => simp [none]
    · next some => split <;> simp [some]

theorem resolving_named {wanted : String} (filled : wanted ≠ "") (container : Option String) :
    ((∃ c, resolving m label ns name (some wanted) container = .ok ⟨wanted, c⟩) ↔
      wanted ∈ (m.select ns (Selector.ofCapp label name)).map (·.name)) ∧
    (resolving m label ns name (some wanted) container = .error (.podNotInWorkload wanted name ns) ↔
      (m.select ns (Selector.ofCapp label name)).map (·.name) ≠ [] ∧
        wanted ∉ (m.select ns (Selector.ofCapp label name)).map (·.name)) := by
  unfold resolving Target.ofCapp
  rw [chosen_some filled, Lookup.run_resolve_named]
  split
  · next none => simp [none]
  · next some => split <;> simp_all

theorem resolving_first (container : Option String) (first : String) :
    (∃ c, resolving m label ns name none container = .ok ⟨first, c⟩) ↔
      ((m.select ns (Selector.ofCapp label name)).map (·.name)).head? = some first := by
  show (∃ c, ((Lookup.resolve label ⟨ns, .capp, name, none, _⟩).run Memory.cluster m).1 = .ok ⟨_, c⟩)
    ↔ _
  rw [Lookup.run_resolve_first]
  cases (m.select ns (Selector.ofCapp label name)).map (·.name) with
  | nil => simp
  | cons p more => simp

end

/-! ## Lists and logs -/

/-- **What is listed can be opened, and nothing else can.** The containers of a pod are listed in
    the pod's order and with their number. A log is opened for a container exactly if its name is in
    the list, and without a name exactly if the list has one item; where the list is refused with
    404, opening fails with the same cause. The pods of a workload are listed in the cluster's order
    and with their number. A request for the workload that names a pod comes to it exactly if it is
    in the list, and fails with `podNotInWorkload` exactly if it is not and the list is not empty;
    one that names none comes to the first; each fails with `noPodsForWorkload` exactly if the list
    is empty. To ask for a list changes nothing. -/
theorem listed_as_opened (settings : Settings) (present : Instant) (m : Memory) (r : Request)
    (ns name : String) :
    let opened := opening m settings.cappLabel settings.tailLines ns name
    let resolved := resolving m settings.cappLabel ns name
    let containers := serve settings present Memory.cluster m r (.containers ns name)
    let pods := serve settings present Memory.cluster m r (.pods ns name)
    (∀ number cs, Lists "containers" "containerName" containers.1 number cs →
      number = cs.length ∧ (m.find? ns name).map (·.containers) = some cs ∧
      (∀ c ≠ "", ((∃ source, opened (some c) = .ok source) ↔ c ∈ cs) ∧
        (c ∉ cs → opened (some c) = .error (.containerNotFound name c))) ∧
      ((∃ source, opened none = .ok source) ↔ cs.length = 1)) ∧
    (∀ response, containers.1 = .answer response → response.status = 404 →
      ∃ cause, (Memory.cluster.get m ns name).1 = .error cause ∧
        response = refusal (.cluster cause) ∧
        ∀ container, opened container = .error (.podLookupFailed name cause)) ∧
    ((∃ number cs, Lists "containers" "containerName" containers.1 number cs) ∨
      ∃ response, containers.1 = .answer response ∧ response.status = 404) ∧
    (∀ number ps, Lists "pods" "podName" pods.1 number ps →
      number = ps.length ∧
      ps = (m.select ns (Selector.ofCapp settings.cappLabel name)).map (·.name) ∧
      (∀ q ≠ "", ∀ container,
        ((∃ c, resolved (some q) container = .ok ⟨q, c⟩) ↔ q ∈ ps) ∧
        (resolved (some q) container = .error (.podNotInWorkload q name ns) ↔
          ps ≠ [] ∧ q ∉ ps)) ∧
      (∀ container p, (∃ c, resolved none container = .ok ⟨p, c⟩) ↔ ps.head? = some p) ∧
      ∀ pod container,
        resolved pod container = .error (.noPodsForWorkload name ns) ↔ ps = []) ∧
    (∃ number ps, Lists "pods" "podName" pods.1 number ps) ∧
    containers.2.2 = m ∧ pods.2.2 = m := by
  intro opened resolved containers pods
  -- the containers: listed, refused, and that there is no third; then the pods
  refine ⟨?_, ?_, ?_, ?_, ⟨_, _, lists_pods present _⟩, ?_, rfl⟩
  · intro number cs lists
    obtain ⟨p, found, rfl, rfl⟩ := containers_listed settings present m r ns name lists
    refine ⟨rfl, by rw [found]; rfl, ?_, opening_none _ _ found⟩
    intro c filled
    exact opening_some _ _ found filled
  · intro response same status
    obtain ⟨found, rfl⟩ := containers_refused settings present m r ns name same status
    refine ⟨.podNotFound name, ?_, rfl, opening_missing _ _ found⟩
    rw [Memory.cluster_get, found]
    rfl
  · simp only [containers, serve_containers]
    cases m.find? ns name with
    | none => exact Or.inr ⟨_, rfl, rfl⟩
    | some p => exact Or.inl ⟨_, _, lists_containers p⟩
  · intro number ps lists
    obtain ⟨rfl, rfl⟩ := pods_listed settings present m r ns name lists
    refine ⟨rfl, rfl, ?_, ?_, ?_⟩
    · intro q filled container
      exact resolving_named _ filled container
    · intro container p
      exact resolving_first _ container p
    · intro pod container
      exact resolving_empty _ pod container
  · simp only [containers, serve_containers]

end Handler

end PodTail
