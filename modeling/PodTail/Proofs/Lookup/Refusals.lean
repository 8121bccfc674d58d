import Mathlib.Data.List.Nodup
import PodTail.Proofs.Lookup.Memory

/-!
# What a refusal tells

A client whose log cannot be opened gets a `StreamFailure`, whose text makes a statement about the
cluster: there is no such pod, the workload has none, the container is not in it. `Truthful` says
when that statement is true, in terms of the pods that the memory holds. `Meant` and `Wanted` are
the pod and the container that a target is about. None of the three mentions the look-up.

`Comes` lists the six outcomes with their reasons, and `comes` shows that every look-up comes to one
of them, for a pod (`comes_pod`) and for a workload (`comes_capp`). With `Distinct`, the pod that is
meant is unique, so the outcomes exclude each other; `opens_iff` and `refusals_tell` follow by cases
on them.

There is one exception to truth. `resolvePod` answers `ambiguousContainer` for every number of
containers but one, so a pod without any is said to have several (`bare_pod_called_ambiguous`).
-/

set_option autoImplicit false

namespace PodTail

/-! ## What a memory holds -/

namespace Memory

/-- No two pods of a namespace have one name. -/
def Distinct (m : Memory) : Prop :=
  (m.pods.map fun p => (p.1, p.2.name)).Nodup

instance (m : Memory) : Decidable m.Distinct :=
  inferInstanceAs (Decidable (List.Nodup _))

/-- The pod is in the namespace, under the name. -/
def Holds (m : Memory) (ns name : String) (p : Pod) : Prop :=
  (ns, p) ∈ m.pods ∧ p.name = name

/-- The pod is in the namespace, and is one of the workload's. -/
def Runs (m : Memory) (label ns capp : String) (p : Pod) : Prop :=
  (ns, p) ∈ m.pods ∧ p.labels.get? label = some capp

variable {m : Memory} {ns name label capp : String} {p q : Pod}

/-- Without duplicates there is one pod of a name. -/
theorem Distinct.unique (distinct : m.Distinct) (here : m.Holds ns name p)
    (also : m.Holds ns name q) : p = q := by
  have same : (ns, p) = (ns, q) :=
    List.inj_on_of_nodup_map distinct here.1 also.1 (by rw [here.2, also.2])
  exact (Prod.mk.inj same).2

/-- `find?` finds a pod that is there; `find_eq_none` says that it misses none. -/
theorem holds_of_find (found : m.find? ns name = some p) : m.Holds ns name p := by
  obtain ⟨⟨ns', p'⟩, picked, rfl⟩ := Option.map_eq_some_iff.mp found
  obtain ⟨rfl, named⟩ : ns' = ns ∧ p'.name = name := by simpa using List.find?_some picked
  exact ⟨List.mem_of_find?_eq_some picked, named⟩

theorem find_eq_none : m.find? ns name = none ↔ ∀ p, ¬ m.Holds ns name p := by
  simp only [find?, Option.map_eq_none_iff, List.find?_eq_none, Holds]
  constructor
  · rintro none p ⟨mem, named⟩
    exact none _ mem (by simpa using named)
  · rintro none ⟨ns', p⟩ mem found
    obtain ⟨rfl, named⟩ : ns' = ns ∧ p.name = name := by simpa using found
    exact none p ⟨mem, named⟩

theorem Distinct.find_eq (distinct : m.Distinct) (here : m.Holds ns name p) :
    m.find? ns name = some p := by
  cases found : m.find? ns name with
  | none => exact absurd here (find_eq_none.mp found p)
  | some q => rw [distinct.unique (holds_of_find found) here]

/-- The labels of a workload are one label. -/
theorem covers_ofCapp (labels : Labels) (label capp : String) :
    labels.covers (Selector.ofCapp label capp) = (labels.get? label == some capp) :=
  Bool.and_true _

theorem mem_select : p ∈ m.select ns (Selector.ofCapp label capp) ↔ m.Runs label ns capp p := by
  simp [select, covers_ofCapp, Runs]

end Memory

namespace Lookup

variable (m : Memory) (label : String) (tail : Option Int) (t : Target)

/-! ## What a target is about

The definitions are by cases on the target's kind and on what it names. The `meant_…` and `wanted_…`
lemmas below give one case each, so that the proofs need not unfold them. -/

/-- The pod that a target is about: the one that is named, which must be of the workload if there is
    a workload; or else the first of the workload's. -/
def Meant (p : Pod) : Prop :=
  match t.kind, t.pod with
  | .pod, named => m.Holds t.ns (named.getD t.identifier) p
  | .capp, some wanted => m.Runs label t.ns t.identifier p ∧ p.name = wanted
  | .capp, none =>
    m.pods.find? (fun q => q.1 = t.ns ∧ q.2.labels.get? label = some t.identifier) = some (t.ns, p)

/-- The container that a target is about: the one that is named, or else the pod's only one, or the
    one with the workload's name. -/
def Wanted (p : Pod) (container : String) : Prop :=
  match t.container, t.kind with
  | some named, _ => container = named
  | none, .pod => p.containers = [container]
  | none, .capp => container = t.identifier

/-- What a failure says to a client who has asked for `t` is true of the memory. The failures of the
    cluster itself do not occur with a memory. -/
def Truthful : StreamFailure → Prop
  | .noPodsForWorkload capp ns =>
    t.kind = .capp ∧ capp = t.identifier ∧ ns = t.ns ∧ ∀ p, ¬ m.Runs label ns capp p
  | .podNotInWorkload pod capp ns =>
    t.kind = .capp ∧ capp = t.identifier ∧ ns = t.ns ∧ t.pod = some pod ∧
      (∃ p, m.Runs label ns capp p) ∧ ∀ p, m.Runs label ns capp p → p.name ≠ pod
  | .ambiguousContainer pod =>
    t.container = none ∧ ∃ p, Meant m label t p ∧ p.name = pod ∧ 1 < p.containers.length
  | .podLookupFailed pod cause =>
    t.kind = .pod ∧ pod = t.pod.getD t.identifier ∧ cause = .podNotFound pod ∧
      ∀ p, ¬ m.Holds t.ns pod p
  | .containerNotFound pod container =>
    ∃ p, Meant m label t p ∧ p.name = pod ∧ Wanted t p container ∧ container ∉ p.containers
  | .workloadLookupFailed _ | .openFailed _ => False

/-- The log of a container, as it is opened. -/
def logOf (p : Pod) (container : String) : OpenLog :=
  ⟨(m.lines p.name container).map .line ++ m.ending.steps, true⟩

/-- The outcomes of a look-up, each with what makes it so. -/
inductive Comes : Except StreamFailure OpenLog → Prop
  | noPods (kind : t.kind = .capp) (none : ∀ p, ¬ m.Runs label t.ns t.identifier p) :
    Comes (.error (.noPodsForWorkload t.identifier t.ns))
  | notAmong {wanted : String} (kind : t.kind = .capp) (named : t.pod = some wanted)
      (some : ∃ p, m.Runs label t.ns t.identifier p)
      (others : ∀ p, m.Runs label t.ns t.identifier p → p.name ≠ wanted) :
    Comes (.error (.podNotInWorkload wanted t.identifier t.ns))
  | missing {name : String} (kind : t.kind = .pod) (named : name = t.pod.getD t.identifier)
      (none : ∀ p, ¬ m.Holds t.ns name p) :
    Comes (.error (.podLookupFailed name (.podNotFound name)))
  | unclear {p : Pod} (kind : t.kind = .pod) (unnamed : t.container = none) (meant : Meant m label t p)
      (unclear : p.containers.length ≠ 1) :
    Comes (.error (.ambiguousContainer p.name))
  | lacks {p : Pod} {container : String} (meant : Meant m label t p) (wanted : Wanted t p container)
      (lacks : container ∉ p.containers) :
    Comes (.error (.containerNotFound p.name container))
  | opened {p : Pod} {container : String} (meant : Meant m label t p) (wanted : Wanted t p container)
      (has : container ∈ p.containers) :
    Comes (.ok (logOf m p container))

variable {m label tail t}

theorem meant_pod {p : Pod} (kind : t.kind = .pod) :
    Meant m label t p ↔ m.Holds t.ns (t.pod.getD t.identifier) p := by
  simp only [Meant, kind]

theorem meant_named {p : Pod} {wanted : String} (kind : t.kind = .capp)
    (named : t.pod = some wanted) :
    Meant m label t p ↔ m.Runs label t.ns t.identifier p ∧ p.name = wanted := by
  simp only [Meant, kind, named]

theorem meant_first {p : Pod} (kind : t.kind = .capp) (unnamed : t.pod = none) :
    Meant m label t p ↔ (m.select t.ns (Selector.ofCapp label t.identifier)).head? = some p := by
  -- the first of the pods that pass a test is the first that is found by it
  have first : (m.select t.ns (Selector.ofCapp label t.identifier)).head? =
      (m.pods.find? fun q => q.1 = t.ns ∧ q.2.labels.get? label = some t.identifier).map (·.2) := by
    simp only [Memory.select, List.head?_map, List.head?_filter, Memory.covers_ofCapp]
    congr 2
    funext q
    rw [Bool.decide_and, Bool.beq_eq_decide_eq]
  rw [first, Option.map_eq_some_iff]
  simp only [Meant, kind, unnamed]
  constructor
  · exact fun found => ⟨_, found, rfl⟩
  · rintro ⟨⟨ns, q⟩, found, rfl⟩
    have here := List.find?_some found
    obtain rfl : ns = t.ns := (of_decide_eq_true here).1
    exact found

theorem wanted_named {p : Pod} {container named : String} (given : t.container = some named) :
    Wanted t p container ↔ container = named := by
  simp only [Wanted, given]

theorem wanted_only {p : Pod} {container : String} (kind : t.kind = .pod)
    (unnamed : t.container = none) : Wanted t p container ↔ p.containers = [container] := by
  simp only [Wanted, kind, unnamed]

theorem wanted_capp {p : Pod} {container : String} (kind : t.kind = .capp) :
    Wanted t p container ↔ container = t.container.getD t.identifier := by
  cases given : t.container with
  | none => simp only [Wanted, kind, given, Option.getD_none]
  | some named => simp only [Wanted, given, Option.getD_some]

theorem Meant.runs {p : Pod} (meant : Meant m label t p) (kind : t.kind = .capp) :
    m.Runs label t.ns t.identifier p := by
  cases named : t.pod with
  | some wanted => exact ((meant_named kind named).mp meant).1
  | none => exact Memory.mem_select.mp (List.mem_of_head? ((meant_first kind named).mp meant))

theorem Meant.holds {p : Pod} (meant : Meant m label t p) : m.Holds t.ns p.name p := by
  cases kind : t.kind with
  | pod => exact ⟨((meant_pod kind).mp meant).1, rfl⟩
  | capp => exact ⟨(meant.runs kind).1, rfl⟩

/-- The pod that is meant is unique, and so is the container (`Wanted.unique`). -/
theorem Meant.unique {p q : Pod} (distinct : m.Distinct) (meant : Meant m label t p)
    (meant' : Meant m label t q) : p = q := by
  cases kind : t.kind with
  | pod => exact distinct.unique ((meant_pod kind).mp meant) ((meant_pod kind).mp meant')
  | capp =>
    cases named : t.pod with
    | some wanted =>
      have here := (meant_named kind named).mp meant
      have also := (meant_named kind named).mp meant'
      exact distinct.unique ⟨here.1.1, here.2⟩ ⟨also.1.1, also.2⟩
    | none =>
      have here := (meant_first kind named).mp meant
      have also := (meant_first kind named).mp meant'
      exact Option.some.inj (here.symm.trans also)

theorem Wanted.unique {p : Pod} {container container' : String} (wanted : Wanted t p container)
    (wanted' : Wanted t p container') : container = container' := by
  cases given : t.container with
  | some named => rw [(wanted_named given).mp wanted, (wanted_named given).mp wanted']
  | none =>
    cases kind : t.kind with
    | pod =>
      have here := (wanted_only kind given).mp wanted
      have also := (wanted_only kind given).mp wanted'
      exact (List.cons.inj (here.symm.trans also)).1
    | capp => rw [(wanted_capp kind).mp wanted, (wanted_capp kind).mp wanted']

/-! ## What a look-up comes to

`openTarget` resolves the target and opens the log of what was found. The second half is the same
for pods and workloads. -/

theorem comes_openLog {p : Pod} {container : String} (distinct : m.Distinct)
    (meant : Meant m label t p) (wanted : Wanted t p container) :
    Comes m label t ((openLog tail t.ns ⟨p.name, container⟩).run Memory.cluster m).1 := by
  rw [run_openLog_memory, distinct.find_eq meant.holds]
  by_cases has : container ∈ p.containers
  · simp only [if_pos has]
    exact .opened meant wanted has
  · simp only [if_neg has]
    exact .lacks meant wanted has

/-- `resolve` does not change the memory, so the second half runs on the same one. -/
theorem resolve_keeps : ((resolve label t).run Memory.cluster m).2.2 = m := by
  cases kind : t.kind with
  | pod =>
    simp only [resolve, kind, resolvePod]
    generalize t.pod.getD t.identifier = name
    cases t.container with
    | some container => rfl
    | none =>
      simp only [bind, run, Memory.cluster_get]
      cases m.find? t.ns name with
      | none => rfl
      | some p =>
        simp only [Option.elim, onlyContainer]
        split <;> rfl
  | capp =>
    simp only [resolve, kind, resolveCapp, bind, run, Memory.cluster_list]
    rcases choose_cases t t.ns Labels.empty (m.select t.ns (Selector.ofCapp label t.identifier)) with
      ⟨why, eq, _⟩ | ⟨p, eq, _⟩
    all_goals rw [eq]; rfl

theorem run_openTarget_memory :
    ((openTarget label tail t).run Memory.cluster m).1 =
      ((resolve label t).run Memory.cluster m).1.bind fun e =>
        ((openLog tail t.ns e).run Memory.cluster m).1 := by
  rw [openTarget, run_bind, resolve_keeps]

/-- A target that names a pod, by whether the pod is found and whether a container is named. -/
theorem comes_pod (distinct : m.Distinct) (kind : t.kind = .pod) :
    Comes m label t ((openTarget label tail t).run Memory.cluster m).1 := by
  rw [run_openTarget_memory, run_resolve, kind]
  simp only [resolvePod]
  generalize named : t.pod.getD t.identifier = name
  cases found : m.find? t.ns name with
  | none =>
    have missing : Comes m label t (.error (.podLookupFailed name (.podNotFound name))) :=
      .missing kind named.symm (Memory.find_eq_none.mp found)
    cases given : t.container with
    | some container =>
      simpa [run, Except.bind, run_openLog_memory, found] using missing
    | none =>
      simpa [run, Memory.cluster_get, found, Except.bind] using missing
  | some p =>
    have holds := Memory.holds_of_find found
    have meant : Meant m label t p := (meant_pod kind).mpr (named ▸ holds)
    obtain rfl := holds.2
    cases given : t.container with
    | some container => exact comes_openLog distinct meant ((wanted_named given).mpr rfl)
    | none =>
      simp only [run, Memory.cluster_get, found, Option.elim, onlyContainer]
      -- exactly one container, or any other number of them
      split
      next only containers =>
        exact comes_openLog distinct meant ((wanted_only kind given).mpr containers)
      next several =>
        refine .unclear kind given meant fun one => ?_
        obtain ⟨only, containers⟩ := List.length_eq_one_iff.mp one
        exact several only containers

/-- A target that names a workload, by its list of pods and whether one of them is named. -/
theorem comes_capp (distinct : m.Distinct) (kind : t.kind = .capp) :
    Comes m label t ((openTarget label tail t).run Memory.cluster m).1 := by
  rw [run_openTarget_memory, run_resolve, kind]
  simp only [resolveCapp, run, Memory.cluster_list]
  have runs (p : Pod) : p ∈ m.select t.ns (Selector.ofCapp label t.identifier) ↔
      m.Runs label t.ns t.identifier p :=
    Memory.mem_select
  -- both cases in which a pod is chosen end here, once it is known to be the one that is meant
  have found {p : Pod} (meant : Meant m label t p) : Comes m label t
      ((openLog tail t.ns ⟨p.name, t.container.getD t.identifier⟩).run Memory.cluster m).1 :=
    comes_openLog distinct meant ((wanted_capp kind).mpr rfl)
  cases listed : m.select t.ns (Selector.ofCapp label t.identifier) with
  | nil =>
    refine .noPods kind fun p here => ?_
    simpa [listed] using (runs p).mpr here
  | cons p pods =>
    cases named : t.pod with
    | none =>
      have meant : Meant m label t p := (meant_first kind named).mpr (by rw [listed]; rfl)
      simpa [choose, named, bind, run, Except.bind] using found meant
    | some wanted =>
      cases among : (p :: pods).find? (·.name = wanted) with
      | none =>
        have others (q : Pod) (here : m.Runs label t.ns t.identifier q) : q.name ≠ wanted := by
          have mem := listed ▸ (runs q).mpr here
          simpa using List.find?_eq_none.mp among q mem
        have some : m.Runs label t.ns t.identifier p := (runs p).mp (by simp [listed])
        simpa [choose, named, among, bind, run, Except.bind] using
          Comes.notAmong kind named ⟨p, some⟩ others
      | some q =>
        have name : q.name = wanted := by simpa using List.find?_some among
        have mem := List.mem_of_find?_eq_some among
        have meant : Meant m label t q :=
          (meant_named kind named).mpr ⟨(runs q).mp (listed ▸ mem), name⟩
        simpa [choose, named, among, bind, run, Except.bind] using found meant

/-- **Every look-up comes to one of the six outcomes.** -/
theorem comes (distinct : m.Distinct) :
    Comes m label t ((openTarget label tail t).run Memory.cluster m).1 := by
  cases kind : t.kind with
  | pod => exact comes_pod distinct kind
  | capp => exact comes_capp distinct kind

/-- A log is opened exactly if pod and container are there. From right to left, each other outcome
    contradicts that the pod is meant and has the container. -/
theorem opens_iff (distinct : m.Distinct) (source : OpenLog) :
    ((openTarget label tail t).run Memory.cluster m).1 = .ok source ↔
      ∃ p container, Meant m label t p ∧ Wanted t p container ∧ container ∈ p.containers ∧
        source = logOf m p container := by
  have comes : Comes m label t ((openTarget label tail t).run Memory.cluster m).1 := comes distinct
  constructor
  · intro opened
    rw [opened] at comes
    cases comes with
    | opened meant wanted has => exact ⟨_, _, meant, wanted, has, rfl⟩
  · rintro ⟨p, container, meant, wanted, has, rfl⟩
    generalize ((openTarget label tail t).run Memory.cluster m).1 = outcome at comes
    cases comes with
    | noPods kind none => exact absurd (meant.runs kind) (none p)
    | notAmong kind named _ others =>
      exact absurd ((meant_named kind named).mp meant).2 (others p (meant.runs kind))
    | missing kind named none => exact absurd (named ▸ (meant_pod kind).mp meant) (none p)
    | unclear kind unnamed meant' unclear =>
      obtain rfl := meant.unique distinct meant'
      rw [(wanted_only kind unnamed).mp wanted] at unclear
      exact absurd rfl unclear
    | lacks meant' wanted' lacks =>
      obtain rfl := meant.unique distinct meant'
      obtain rfl := wanted.unique wanted'
      exact absurd has lacks
    | opened meant' wanted' =>
      obtain rfl := meant.unique distinct meant'
      obtain rfl := wanted.unique wanted'
      rfl

/-- **What a client is told is so**, with one exception. Let no two pods of a namespace have one
    name. If no log is opened for a target, the failure is `Truthful`, or it is `ambiguousContainer`
    for a pod that has no container. And the log of a container is opened exactly if the pod that is
    meant is there, is of the workload that is asked for, and has the container. -/
theorem refusals_tell {m : Memory} (distinct : m.Distinct) (label : String) (tail : Option Int)
    (t : Target) :
    let outcome := ((openTarget label tail t).run Memory.cluster m).1
    (∀ why, outcome = .error why → Truthful m label t why ∨
        ∃ p, why = .ambiguousContainer p.name ∧ t.kind = .pod ∧ t.container = none ∧
          Meant m label t p ∧ p.containers = []) ∧
      ∀ source, outcome = .ok source ↔
        ∃ p container, Meant m label t p ∧ Wanted t p container ∧ container ∈ p.containers ∧
          source = logOf m p container := by
  intro outcome
  refine ⟨?_, opens_iff distinct⟩
  intro why refused
  have comes : Comes m label t outcome := comes distinct
  rw [refused] at comes
  cases comes with
  | noPods kind none => exact Or.inl ⟨kind, rfl, rfl, none⟩
  | notAmong kind named some others => exact Or.inl ⟨kind, rfl, rfl, named, some, others⟩
  | missing kind named none => exact Or.inl ⟨kind, named, rfl, none⟩
  | lacks meant wanted lacks => exact Or.inl ⟨_, meant, rfl, wanted, lacks⟩
  | @unclear p kind unnamed meant unclear =>
    -- not exactly one: without any the refusal is the exception, and with several it is true
    cases containers : p.containers with
    | nil => exact Or.inr ⟨p, rfl, kind, unnamed, meant, containers⟩
    | cons first more =>
      refine Or.inl ⟨unnamed, p, meant, rfl, ?_⟩
      rw [containers] at unclear ⊢
      exact Nat.lt_of_le_of_ne (Nat.succ_pos _) (Ne.symm unclear)

/-- A pod that has no container, and the pod of a shop. -/
def bare : Memory where
  pods := [("ns", Memory.plainPod "web" Labels.empty []),
    ("ns", Memory.plainPod "shop-1" (Labels.single "app" "shop") ["shop", "proxy"])]
  records := []
  ending := .close
  opened := 0
  closed := 0
  tails := []

/-- `refusals_tell` on `bare`: the log of the shop is opened, and the refusal for the workload `web`
    is true. -/
theorem shop_is_served :
    bare.Distinct ∧
      ((openTarget "app" none (.ofCapp "ns" "shop" none none)).run Memory.cluster bare).1 =
        .ok ⟨[.line "fake logs"], true⟩ ∧
      ((openTarget "app" none (.ofCapp "ns" "web" none none)).run Memory.cluster bare).1 =
        .error (.noPodsForWorkload "web" "ns") ∧
      ∀ p, ¬ bare.Runs "app" "ns" "web" p := by
  have distinct : bare.Distinct := by decide
  have shop := (refusals_tell distinct "app" none (.ofCapp "ns" "shop" none none)).2
  have web := (refusals_tell distinct "app" none (.ofCapp "ns" "web" none none)).1
  refine ⟨distinct, (shop _).mpr ⟨_, "shop", rfl, rfl, List.mem_cons_self, rfl⟩, rfl, ?_⟩
  rcases web _ rfl with told | ⟨_, other, _⟩
  · exact told.2.2.2
  · cases other

/-- The exception occurs: the failure for the pod `web` is `ambiguousContainer`, and it has no
    container. -/
theorem bare_pod_called_ambiguous :
    bare.Distinct ∧
      ((openTarget "app" none (.ofPod "ns" "web" none)).run Memory.cluster bare).1 =
        .error (.ambiguousContainer "web") ∧
      ∀ p, bare.Holds "ns" "web" p → p.containers = [] := by
  have distinct : bare.Distinct := by decide
  refine ⟨distinct, rfl, fun p here => ?_⟩
  have web : bare.Holds "ns" "web" (Memory.plainPod "web" Labels.empty []) :=
    ⟨List.mem_cons_self, rfl⟩
  rw [distinct.unique here web]
  rfl

end Lookup

end PodTail
