import PodTail.Cluster.Memory
import PodTail.Proofs.Lookup.Route

/-!
# Look-ups in a cluster in memory

The outcome of `openTarget` and of `resolve` on a cluster in memory, as a function of the pods that
it holds. A `get` finds a pod or fails with `podNotFound`, and a `list` never fails. So the outcomes
are short case distinctions on `Memory.find?` and `Memory.select`: `run_openTarget_some` and
`run_openTarget_none` for a pod, by whether a container is named, and `run_resolve_named` and
`run_resolve_first` for a workload, by whether a pod is named.
-/

set_option autoImplicit false

namespace PodTail

namespace Memory

variable (m : Memory) (ns : String)

theorem cluster_get (name : String) :
    cluster.get m ns name = (((m.find? ns name).elim (.error (.podNotFound name)) .ok), m) := by
  show (m.get ns name, m) = _
  unfold get
  cases m.find? ns name with
  | none => rfl
  | some p => rfl

theorem cluster_list (selector : Labels) :
    cluster.list m ns selector = (.ok (m.select ns selector), [], m) :=
  rfl

end Memory

namespace Lookup

variable {α β σ : Type}

/-- The outcome of `d.bind f`: the failure of `d`, or the outcome of `f` in the state behind `d`. -/
theorem run_bind (c : Cluster σ) (d : Lookup α) (f : α → Lookup β) (s : σ) :
    ((d.bind f).run c s).1 = (d.run c s).1.bind fun a => ((f a).run c (d.run c s).2.2).1 := by
  induction d generalizing s with
  | found | refused => rfl
  | list ns selector next ih => exact ih _ _
  | get ns pod next ih => exact ih _ _
  | log ns pod container tail next ih => exact ih _ _
  | note e next ih => exact ih s

/-- The outcome of `resolve` without its note. -/
theorem run_resolve (c : Cluster σ) (label : String) (t : Target) (s : σ) :
    ((resolve label t).run c s).1 =
      ((match t.kind with | .pod => resolvePod t | .capp => resolveCapp label t).run c s).1 := by
  unfold resolve
  rw [run_bind]
  simp only [run]
  cases ((match t.kind with | .pod => resolvePod t | .capp => resolveCapp label t).run c s).1 with
  | error why => rfl
  | ok e => rfl

/-! ## Opening a log -/

section

variable (m : Memory) (label : String) (tail : Option Int) (ns name : String)

/-- `openLog` succeeds if the pod is found and has the container. -/
theorem run_openLog_memory (container : String) :
    ((openLog tail ns ⟨name, container⟩).run Memory.cluster m).1 =
      match m.find? ns name with
      | none => .error (.podLookupFailed name (.podNotFound name))
      | some p =>
        if container ∈ p.containers then
          .ok ⟨(m.lines name container).map .line ++ m.ending.steps, true⟩
        else .error (.containerNotFound name container) := by
  simp only [openLog, run, Memory.cluster_get]
  cases found : m.find? ns name with
  | none => rfl
  | some p =>
    by_cases has : container ∈ p.containers
    · simp [has, run, Memory.cluster, Memory.log, Memory.get, found]
    · simp [has, run]

/-- With a named container, `openTarget` is `openLog`. -/
theorem run_openTarget_some (container : String) :
    ((openTarget label tail ⟨ns, .pod, name, none, some container⟩).run Memory.cluster m).1 =
      match m.find? ns name with
      | none => .error (.podLookupFailed name (.podNotFound name))
      | some p =>
        if container ∈ p.containers then
          .ok ⟨(m.lines name container).map .line ++ m.ending.steps, true⟩
        else .error (.containerNotFound name container) :=
  run_openLog_memory m tail ns name container

/-- Without one, the pod must have exactly one container. -/
theorem run_openTarget_none :
    ((openTarget label tail ⟨ns, .pod, name, none, none⟩).run Memory.cluster m).1 =
      match m.find? ns name with
      | none => .error (.podLookupFailed name (.podNotFound name))
      | some p =>
        match p.containers with
        | [only] => .ok ⟨(m.lines name only).map .line ++ m.ending.steps, true⟩
        | _ => .error (.ambiguousContainer name) := by
  -- the pod is looked up twice, and nothing has changed in between
  have opens := run_openLog_memory m tail ns name
  simp only [openTarget, resolve, resolvePod, bind, run, Memory.cluster_get, Option.getD_none]
  cases found : m.find? ns name with
  | none => rfl
  | some p =>
    rw [found] at opens
    cases containers : p.containers with
    | nil => simp [onlyContainer, containers, bind, run]
    | cons only more =>
      cases more with
      | nil =>
        simpa [onlyContainer, containers, bind, run] using opens only
      | cons second more => simp [onlyContainer, containers, bind, run]

end

/-! ## The pods of a workload -/

/-- `choose` of a named pod, by whether the name is among those of the list. -/
theorem run_choose_named (c : Cluster σ) (s : σ) (t : Target) {wanted : String}
    (named : t.pod = some wanted) (pods : List Pod) :
    ((choose t pods).run c s).1.map (·.name) =
      if pods.map (·.name) = [] then .error (.noPodsForWorkload t.identifier t.ns)
      else if wanted ∈ pods.map (·.name) then .ok wanted
      else .error (.podNotInWorkload wanted t.identifier t.ns) := by
  cases pods with
  | nil => rfl
  | cons p more =>
    rw [if_neg (by simp)]
    rcases choose_cases t t.ns Labels.empty (p :: more) with
      ⟨why, eq, refusal⟩ | ⟨q, eq, refusal, name⟩
    -- the stage refuses by names alone, so any endpoint will do to read the refusal off
    all_goals
      have refusal := refusal ⟨wanted, wanted⟩
      simp only [Stage.refusal, named] at refusal
      rw [eq]
    · split at refusal
      · cases refusal
      · next missing =>
        rw [if_neg missing, ← Option.some.inj refusal]
        rfl
    · split at refusal
      · next there =>
        rw [named, Option.getD_some] at name
        rw [if_pos there, ← name]
        rfl
      · cases refusal

section

variable (m : Memory) (label ns capp : String) (container : Option String)

/-- `resolve` of a workload is `choose` from the list of its pods. -/
theorem run_resolve_capp (pod : Option String) :
    ((resolve label ⟨ns, .capp, capp, pod, container⟩).run Memory.cluster m).1 =
      (((choose ⟨ns, .capp, capp, pod, container⟩
        (m.select ns (Selector.ofCapp label capp))).run Memory.cluster m).1.map (·.name)).map
          fun name => ⟨name, container.getD capp⟩ := by
  rw [run_resolve]
  simp only [resolveCapp, run, Memory.cluster_list]
  rw [run_bind]
  cases ((choose _ _).run _ m).1 with
  | error why => rfl
  | ok p => rfl

/-- `resolve` of a workload and a named pod. -/
theorem run_resolve_named (wanted : String) :
    ((resolve label ⟨ns, .capp, capp, some wanted, container⟩).run Memory.cluster m).1 =
      if (m.select ns (Selector.ofCapp label capp)).map (·.name) = [] then
        .error (.noPodsForWorkload capp ns)
      else if wanted ∈ (m.select ns (Selector.ofCapp label capp)).map (·.name) then
        .ok ⟨wanted, container.getD capp⟩
      else .error (.podNotInWorkload wanted capp ns) := by
  rw [run_resolve_capp, run_choose_named _ _ _ rfl]
  split
  · rfl
  split <;> rfl

/-- `resolve` of a workload alone takes the first of its pods. -/
theorem run_resolve_first :
    ((resolve label ⟨ns, .capp, capp, none, container⟩).run Memory.cluster m).1 =
      match (m.select ns (Selector.ofCapp label capp)).map (·.name) with
      | [] => .error (.noPodsForWorkload capp ns)
      | first :: _ => .ok ⟨first, container.getD capp⟩ := by
  rw [run_resolve_capp]
  cases m.select ns (Selector.ofCapp label capp) with
  | nil => rfl
  | cons p pods => rfl

end

end Lookup

end PodTail
