import PodTail.Proofs.Lookup.Transcript

/-!
# The way to an open log

A target has a route of two or three stages to its open log (`route`): the pods of a workload are
listed (`candidates`), or a pod is looked up for its only container (`inference`); then the pod is
looked up to see that it has the container (`check`); then the log is asked for (`opening`).
`Stage.question` is what is asked at a stage, and `Stage.refusal` is whether an answer is refused
there, and with which failure.

The first answer alone decides which pod and which container are meant (`endpoint`). Later answers
can contradict it, since pods come and go in between, and are refused then; they never change what
is asked for.

`Along` relates a list of stages to the calls made and to the outcome: each call is the question of
its stage, each answer but the last is accepted, and the last decides. `Goes.openTarget` shows that
every run of `openTarget` is `Along` its route, one part of the look-up after the other
(`Goes.resolvePod`, `Goes.resolveCapp`, `Goes.openLog`). What a client can rely on is then read off
`Along` by induction, and `seen_before_opened` states it for the run on any cluster.
-/

set_option autoImplicit false

namespace PodTail

/-- A log is asked for. -/
def Exchange.Opens : Exchange → Prop
  | .opened .. => True
  | _ => False

namespace Lookup

/-! ## Stages -/

inductive Stage where
  /-- The pods of a workload are listed, one of which is to be read from. -/
  | candidates
  /-- A pod is looked up for its only container. -/
  | inference
  /-- A pod is looked up to see that it has the container. -/
  | check
  | opening
  deriving DecidableEq, Repr

/-- The stages from a target to its open log. -/
def route (t : Target) : List Stage :=
  match t.kind, t.container with
  | .capp, _ => [.candidates, .check, .opening]
  | .pod, none => [.inference, .check, .opening]
  | .pod, some _ => [.check, .opening]

/-- What is asked at a stage, for the container `e`. -/
def Stage.question (label : String) (tail : Option Int) (t : Target) (e : Endpoint) :
    Stage → Question
  | .candidates => .list t.ns (Selector.ofCapp label t.identifier)
  | .inference | .check => .get t.ns e.pod
  | .opening => .log t.ns e.pod e.container tail

/-- Why an answer is refused at a stage, if it is. -/
def Stage.refusal (t : Target) (e : Endpoint) : Stage → Exchange → Option StreamFailure
  | .candidates, .listed _ _ (.error cause) => some (.workloadLookupFailed cause)
  | .candidates, .listed _ _ (.ok []) => some (.noPodsForWorkload t.identifier t.ns)
  | .candidates, .listed _ _ (.ok pods) =>
    match t.pod with
    | none => none
    | some wanted =>
      if wanted ∈ pods.map (·.name) then none
      else some (.podNotInWorkload wanted t.identifier t.ns)
  | .inference, .got _ _ (.error cause) => some (.podLookupFailed e.pod cause)
  | .inference, .got _ _ (.ok p) =>
    if p.containers.length = 1 then none else some (.ambiguousContainer e.pod)
  | .check, .got _ _ (.error cause) => some (.podLookupFailed e.pod cause)
  | .check, .got _ _ (.ok p) =>
    if e.container ∈ p.containers then none else some (.containerNotFound e.pod e.container)
  | .opening, .opened _ _ _ _ (.error cause) => some (.openFailed cause)
  | _, _ => none

/-- The first of the pods that were listed, if listing them was the first call. -/
def firstListed? : List Exchange → Option Pod
  | .listed _ _ (.ok pods) :: _ => pods.head?
  | _ => none

/-- The only container of the pod that was looked up, if that was the first call. -/
def onlySeen? : List Exchange → Option String
  | .got _ _ (.ok p) :: _ =>
    match p.containers with
    | [only] => some only
    | _ => none
  | _ => none

/-- The container that is meant, by the target and the answer to the first call: of a workload's
    pods the one that was named or else the first, and of its containers the one that was named or
    else the one with the workload's name; of a pod the container that was named, or else its only
    one. -/
def endpoint (t : Target) (calls : List Exchange) : Endpoint :=
  match t.kind with
  | .capp =>
    ⟨t.pod.getD (((firstListed? calls).map (·.name)).getD t.identifier),
      t.container.getD t.identifier⟩
  | .pod => ⟨t.pod.getD t.identifier, t.container.getD ((onlySeen? calls).getD t.identifier)⟩

/-- For each call of the route, its refusal if there is one. -/
def verdicts (t : Target) (e : Endpoint) (stages : List Stage) (calls : List Exchange) :
    List (Option StreamFailure) :=
  List.zipWith (Stage.refusal t e) stages calls

/-! ## Along a route

Each fact about a run is an induction on `Along`, with a case for a refusal, one for an accepted
answer and one for the open log. -/

section

variable {label : String} {tail : Option Int} {t : Target} {e : Endpoint} {stages : List Stage}
  {calls : List Exchange} {outcome : Except StreamFailure OpenLog}

/-- The calls keep to the stages, each answer but the last is accepted, and the last decides. -/
inductive Along (label : String) (tail : Option Int) (t : Target) (e : Endpoint) :
    List Stage → List Exchange → Except StreamFailure OpenLog → Prop
  | refused {stage : Stage} {rest : List Stage} {x : Exchange} {why : StreamFailure}
      (asked : x.question = stage.question label tail t e)
      (refusal : stage.refusal t e x = some why) : Along label tail t e (stage :: rest) [x] (.error why)
  | accepted {stage : Stage} {rest : List Stage} {x : Exchange} {calls : List Exchange}
      {outcome : Except StreamFailure OpenLog}
      (asked : x.question = stage.question label tail t e) (refusal : stage.refusal t e x = none)
      (more : Along label tail t e rest calls outcome) :
      Along label tail t e (stage :: rest) (x :: calls) outcome
  | opened (source : OpenLog) : Along label tail t e [.opening]
      [.opened t.ns e.pod e.container tail (.ok source)] (.ok source)

namespace Along

/-- The questions are a prefix of those of the stages. -/
theorem path (h : Along label tail t e stages calls outcome) :
    calls.map Exchange.question <+: stages.map (Stage.question label tail t e) := by
  induction h with
  | refused asked =>
    rw [List.map_cons, List.map_cons, asked, List.cons_prefix_cons]
    exact ⟨rfl, List.nil_prefix⟩
  | accepted asked _ _ ih =>
    rw [List.map_cons, List.map_cons, asked, List.cons_prefix_cons]
    exact ⟨rfl, ih⟩
  | opened => exact List.prefix_refl _

theorem not_opens {stage : Stage} {x : Exchange} (asked : x.question = stage.question label tail t e)
    (other : stage ≠ .opening) : ¬ x.Opens := by
  cases x with
  | listed | got => exact id
  | opened => cases stage <;> simp_all [Exchange.question, Stage.question]

/-- An accepted answer at `check` is a pod that has the container. -/
theorem check_accepted {x : Exchange} (asked : x.question = Stage.check.question label tail t e)
    (refusal : Stage.check.refusal t e x = none) :
    ∃ p, e.container ∈ p.containers ∧ x = .got t.ns e.pod (.ok p) := by
  cases x with
  | listed | opened => simp [Exchange.question, Stage.question] at asked
  | got ns pod answer =>
    simp only [Exchange.question, Stage.question, Question.get.injEq] at asked
    obtain ⟨rfl, rfl⟩ := asked
    cases answer with
    | error cause => simp [Stage.refusal] at refusal
    | ok p => exact ⟨p, by simpa [Stage.refusal] using refusal, rfl⟩

theorem of_opening (h : Along label tail t e [.opening] calls outcome) :
    ∃ answer, calls = [.opened t.ns e.pod e.container tail answer] := by
  cases h with
  | opened source => exact ⟨_, rfl⟩
  | accepted _ _ more => cases more
  | @refused _ _ x _ asked =>
    cases x with
    | listed | got => simp [Exchange.question, Stage.question] at asked
    | opened ns pod container tail' answer =>
      simp only [Exchange.question, Stage.question, Question.log.injEq] at asked
      obtain ⟨rfl, rfl, rfl, rfl⟩ := asked
      exact ⟨answer, rfl⟩

theorem verdicts_ne_nil (h : Along label tail t e stages calls outcome) :
    verdicts t e stages calls ≠ [] := by
  cases h <;> simp [verdicts]

theorem verdicts_accepted {stage : Stage} {x : Exchange} (refusal : stage.refusal t e x = none) :
    verdicts t e (stage :: stages) (x :: calls) = none :: verdicts t e stages calls := by
  rw [verdicts, List.zipWith_cons_cons, refusal]
  rfl

/-- No answer but the last is refused. -/
theorem none_of_mem_dropLast (h : Along label tail t e stages calls outcome) :
    ∀ v ∈ (verdicts t e stages calls).dropLast, v = none := by
  induction h with
  | refused => simp [verdicts]
  | opened => simp [verdicts]
  | accepted _ refusal more ih =>
    rw [verdicts_accepted refusal, List.dropLast_cons_of_ne_nil more.verdicts_ne_nil]
    intro v mem
    rcases List.mem_cons.mp mem with rfl | mem
    · rfl
    · exact ih v mem

/-- The outcome is a failure exactly if the last answer is refused, and it is that refusal. -/
theorem error_iff (h : Along label tail t e stages calls outcome) (why : StreamFailure) :
    outcome = .error why ↔ (verdicts t e stages calls).getLast? = some (some why) := by
  induction h with
  | refused asked refusal => simp [verdicts, refusal]
  | opened => simp [verdicts, Stage.refusal]
  | accepted _ refusal more ih =>
    obtain ⟨v, vs, eq⟩ := List.exists_cons_of_ne_nil more.verdicts_ne_nil
    rw [ih, verdicts_accepted refusal, eq, List.getLast?_cons_cons]

/-- For an open log all stages have been asked, and the last answer is that log. -/
theorem complete (h : Along label tail t e stages calls outcome) {source : OpenLog}
    (ok : outcome = .ok source) :
    calls.length = stages.length ∧
      calls.getLast? = some (.opened t.ns e.pod e.container tail (.ok source)) := by
  induction h with
  | refused => simp at ok
  | opened => simp_all
  | accepted _ _ more ih =>
    obtain ⟨length, last⟩ := ih ok
    refine ⟨congrArg (· + 1) length, ?_⟩
    cases more with
    | refused | accepted | opened => rwa [List.getLast?_cons_cons]

/-- A log is asked for last, and right behind a `get` that has shown its container. The induction is
    on the stages in front of the last two, none of which opens anything. -/
theorem opens_last {front : List Stage} (h : Along label tail t e stages calls outcome)
    (eq : stages = front ++ [.check, .opening]) (early : .opening ∉ front) :
    (∀ x ∈ calls, ¬ x.Opens) ∨
      ∃ before p answer, e.container ∈ p.containers ∧ (∀ x ∈ before, ¬ x.Opens) ∧
        calls = before ++
          [.got t.ns e.pod (.ok p), .opened t.ns e.pod e.container tail answer] := by
  induction front generalizing stages calls with
  | nil =>
    subst eq
    -- at `check`: refused, or accepted with a pod that has the container
    cases h with
    | refused asked => exact Or.inl (by simpa using not_opens asked (by simp))
    | @accepted _ _ x _ _ asked refusal more =>
      obtain ⟨p, has, rfl⟩ := check_accepted asked refusal
      obtain ⟨answer, rfl⟩ := more.of_opening
      exact Or.inr ⟨[], p, answer, has, by simp, rfl⟩
  | cons stage front ih =>
    simp only [List.mem_cons, not_or] at early
    have other : stage ≠ .opening := Ne.symm early.1
    cases h with
    | opened => simp at eq
    | refused asked =>
      rw [List.cons_append, List.cons.injEq] at eq
      exact Or.inl (by simpa using not_opens asked (eq.1 ▸ other))
    | @accepted _ _ x _ _ asked _ more =>
      rw [List.cons_append, List.cons.injEq] at eq
      have quiet := not_opens asked (eq.1 ▸ other)
      rcases ih more eq.2 early.2 with none | ⟨before, p, answer, has, none, eq⟩
      · exact Or.inl (List.forall_mem_cons.mpr ⟨quiet, none⟩)
      · refine Or.inr ⟨x :: before, p, answer, has, List.forall_mem_cons.mpr ⟨quiet, none⟩, ?_⟩
        rw [eq, List.cons_append]

end Along

/-! ## Every look-up keeps to its route

The look-up is taken apart as it is defined, with the answers as cases. `Resolved` is what its first
part hands to its second. -/

/-- `openLog` goes along the last two stages. -/
theorem Goes.openLog (h : Goes (Lookup.openLog tail t.ns e) calls outcome) :
    Along label tail t e [.check, .opening] calls outcome := by
  unfold Lookup.openLog at h
  cases h with
  | get answer rest =>
    cases answer with
    | error cause =>
      cases rest
      exact .refused rfl rfl
    | ok p =>
      by_cases has : e.container ∈ p.containers
      · simp only [if_pos has] at rest
        refine .accepted rfl (if_pos has) ?_
        cases rest with
        | log answer rest =>
          cases answer with
          | error cause =>
            cases rest
            exact .refused rfl rfl
          | ok source =>
            cases rest with
            | note rest =>
              cases rest
              exact .opened source
      · simp only [if_neg has] at rest
        cases rest
        exact .refused rfl (if_neg has)

/-- `choose` fails with the refusal of the stage `candidates`, or finds the pod of the `endpoint`.
    -/
theorem choose_cases (t : Target) (ns : String) (selector : Labels) (pods : List Pod) :
    (∃ why, choose t pods = .refused why ∧
      ∀ e, Stage.candidates.refusal t e (.listed ns selector (.ok pods)) = some why) ∨
    ∃ p, choose t pods = .found p ∧
      (∀ e, Stage.candidates.refusal t e (.listed ns selector (.ok pods)) = none) ∧
      p.name = t.pod.getD ((pods.head?.map (·.name)).getD t.identifier) := by
  cases pods with
  | nil => exact Or.inl ⟨_, rfl, fun _ => rfl⟩
  | cons p ps =>
    cases named : t.pod with
    | none => exact Or.inr ⟨p, by simp [choose, named], by simp [Stage.refusal, named], rfl⟩
    | some wanted =>
      -- a pod of that name is found exactly if the name is one of those listed
      cases found : (p :: ps).find? (·.name = wanted) with
      | none =>
        have missing : wanted ∉ (p :: ps).map (·.name) := by
          intro mem
          obtain ⟨q, mem, eq⟩ := List.mem_map.mp mem
          exact List.find?_eq_none.mp found q mem (by simpa using eq)
        refine Or.inl ⟨.podNotInWorkload wanted t.identifier t.ns, ?_, ?_⟩
        · simp only [choose, named, found]
        · intro e
          simp only [Stage.refusal, named, if_neg missing]
      | some q =>
        have name : q.name = wanted := by simpa using List.find?_some found
        have there : wanted ∈ (p :: ps).map (·.name) :=
          List.mem_map.mpr ⟨q, List.mem_of_find?_eq_some found, name⟩
        refine Or.inr ⟨q, ?_, ?_, name⟩
        · simp only [choose, named, found]
        · intro e
          simp only [Stage.refusal, named, if_pos there]

/-- What resolving a target comes to, as a part of the route: either an answer is refused and the
    calls go along the route as they are, or the endpoint is found, and whatever goes along the last
    two stages behind these calls goes along the route. -/
inductive Resolved (label : String) (tail : Option Int) (t : Target) :
    List Exchange → Except StreamFailure Endpoint → Prop
  | refused {calls : List Exchange} {why : StreamFailure}
      (along : Along label tail t (endpoint t calls) (route t) calls (.error why)) :
      Resolved label tail t calls (.error why)
  | found {calls : List Exchange} {e : Endpoint}
      (meant : ∀ rest, endpoint t (calls ++ rest) = e)
      (along : ∀ rest outcome, Along label tail t e [.check, .opening] rest outcome →
        Along label tail t e (route t) (calls ++ rest) outcome) :
      Resolved label tail t calls (.ok e)

/-- For a pod: no call if the container is named, and otherwise one for the only container. -/
theorem Goes.resolvePod {found : Except StreamFailure Endpoint} (kind : t.kind = .pod)
    (h : Goes (Lookup.resolvePod t) calls found) : Resolved label tail t calls found := by
  unfold Lookup.resolvePod at h
  cases named : t.container with
  | some container =>
    simp only [named] at h
    cases h
    refine .found (fun rest => ?_) (fun rest outcome along => ?_)
    · simp [endpoint, kind, named]
    · simpa [route, kind, named] using along
  | none =>
    have stages : route t = [.inference, .check, .opening] := by simp [route, kind, named]
    simp only [named] at h
    cases h with
    | get answer rest =>
      cases answer with
      | error cause =>
        cases rest
        refine .refused ?_
        rw [stages]
        refine .refused ?_ ?_ <;>
          simp [Exchange.question, Stage.question, Stage.refusal, endpoint, kind]
      | ok p =>
        simp only [onlyContainer] at rest
        split at rest
        next only eq =>
          cases rest
          refine .found (fun rest => ?_) (fun rest outcome along => ?_)
          · simp [endpoint, kind, named, onlySeen?, eq]
          · rw [stages]
            exact .accepted rfl (by simp [Stage.refusal, eq]) along
        next several =>
          have ambiguous : p.containers.length ≠ 1 := by
            intro one
            obtain ⟨only, eq⟩ := List.length_eq_one_iff.mp one
            exact several only eq
          cases rest
          refine .refused ?_
          rw [stages]
          refine .refused ?_ ?_ <;>
            simp [Exchange.question, Stage.question, Stage.refusal, endpoint, kind, ambiguous]

/-- For a workload: one call for the list, from which `choose` takes a pod. -/
theorem Goes.resolveCapp {found : Except StreamFailure Endpoint} (kind : t.kind = .capp)
    (h : Goes (Lookup.resolveCapp label t) calls found) : Resolved label tail t calls found := by
  have stages : route t = [.candidates, .check, .opening] := by simp [route, kind]
  unfold Lookup.resolveCapp at h
  cases h with
  | list answer rest =>
    cases answer with
    | error cause =>
      cases rest
      refine .refused ?_
      rw [stages]
      exact .refused rfl rfl
    | ok pods =>
      rcases choose_cases t t.ns (Selector.ofCapp label t.identifier) pods with
        ⟨why, chosen, refusal⟩ | ⟨p, chosen, refusal, name⟩
      · simp only [chosen, bind] at rest
        cases rest
        refine .refused ?_
        rw [stages]
        exact .refused rfl (refusal _)
      · simp only [chosen, bind] at rest
        cases rest
        refine .found (fun rest => ?_) (fun rest outcome along => ?_)
        · simp [endpoint, kind, firstListed?, name]
        · rw [stages]
          exact .accepted rfl (refusal _) along

/-- `resolve` notes what it has found, which makes no call. -/
theorem Goes.of_noted {d : Lookup Endpoint} {found : Except StreamFailure Endpoint}
    (h : Goes (d.bind fun e => .note (.resolved t e) (.found e)) calls found) :
    Goes d calls found := by
  rcases h.of_bind with ⟨why, rfl, goes⟩ | ⟨e, first, rest, rfl, goes, noted⟩
  · exact goes
  · cases noted with
    | note noted =>
      cases noted
      rwa [List.append_nil]

theorem Goes.resolve {found : Except StreamFailure Endpoint}
    (h : Goes (resolve label t) calls found) : Resolved label tail t calls found := by
  have goes := h.of_noted
  cases kind : t.kind with
  | pod =>
    simp only [kind] at goes
    exact goes.resolvePod kind
  | capp =>
    simp only [kind] at goes
    exact goes.resolveCapp kind

/-- **Every run of `openTarget` goes along the route of its target.** -/
theorem Goes.openTarget (h : Goes (openTarget label tail t) calls outcome) :
    Along label tail t (endpoint t calls) (route t) calls outcome := by
  -- resolving fails and is the end of it, or what is found is opened
  rcases h.of_bind with ⟨why, rfl, goes⟩ | ⟨e, first, rest, rfl, goes, goes'⟩
  · have resolved : Resolved label tail t calls (.error why) := goes.resolve
    cases resolved with
    | refused along => exact along
  · have resolved : Resolved label tail t first (.ok e) := goes.resolve
    cases resolved with
    | found meant along =>
      rw [meant]
      exact along rest outcome goes'.openLog

end

/-- Every route ends in `check` and `opening`, and opens nothing before. -/
theorem route_eq (t : Target) :
    ∃ front, route t = front ++ [.check, .opening] ∧ .opening ∉ front := by
  cases kind : t.kind with
  | capp => exact ⟨[.candidates], by simp [route, kind], by simp⟩
  | pod =>
    cases named : t.container with
    | none => exact ⟨[.inference], by simp [route, kind, named], by simp⟩
    | some container => exact ⟨[], by simp [route, kind, named], by simp⟩

/-! ## Seen before it is opened -/

/-- What holds of the calls and the outcome of every attempt to open a target's log. -/
structure Validated (label : String) (tail : Option Int) (t : Target) (calls : List Exchange)
    (outcome : Except StreamFailure OpenLog) : Prop where
  /-- The first so many calls of the route are made, all in the target's namespace and, but for the
      listing, about one pod. -/
  path : calls.map Exchange.question <+:
    (route t).map (Stage.question label tail t (endpoint t calls))
  /-- Nothing is asked behind a refusal. -/
  accepted : ∀ v ∈ (verdicts t (endpoint t calls) (route t) calls).dropLast, v = none
  /-- A refusal is the outcome, and there is no other failure. -/
  refused : ∀ why, outcome = .error why ↔
    (verdicts t (endpoint t calls) (route t) calls).getLast? = some (some why)
  /-- What is opened is what the last call of the whole route was answered. -/
  complete : ∀ source, outcome = .ok source → calls.length = (route t).length ∧
    calls.getLast? = some
      (.opened t.ns (endpoint t calls).pod (endpoint t calls).container tail (.ok source))
  /-- A log is asked for once at most, as the last call of all, and right behind a look-up of its
      pod that was answered with a pod that has its container. -/
  seen : (∀ x ∈ calls, ¬ x.Opens) ∨ ∃ before ns pod container p answer,
    container ∈ p.containers ∧ (∀ x ∈ before, ¬ x.Opens) ∧
      calls = before ++ [.got ns pod (.ok p), .opened ns pod container tail answer]

/-- Whatever the cluster answers and however it changes between two calls, `openTarget` asks along
    the route of its target up to the first answer that is refused, comes to that refusal or to an
    open log, and asks for no log whose container it has not just seen. -/
theorem seen_before_opened {σ : Type} (c : Cluster σ) (s : σ) (label : String) (tail : Option Int)
    (t : Target) :
    Validated label tail t ((openTarget label tail t).transcript c s)
      ((openTarget label tail t).run c s).1 := by
  have along := (goes_run c (openTarget label tail t) s).openTarget
  obtain ⟨front, eq, early⟩ := route_eq t
  refine ⟨along.path, along.none_of_mem_dropLast, along.error_iff, ?_, ?_⟩
  · exact fun source ok => along.complete ok
  · rcases along.opens_last eq early with none | ⟨before, p, answer, has, none, calls⟩
    · exact Or.inl none
    · exact Or.inr ⟨before, _, _, _, p, answer, has, none, calls⟩

end Lookup

end PodTail
