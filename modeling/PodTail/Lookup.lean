import PodTail.Event
import PodTail.Feed
import PodTail.Pod
import PodTail.Selector

/-!
# Finding and opening a log

`Lookup α` is a dialogue with a cluster, as data: each constructor for a question holds a
function from the answer to the rest of the dialogue. It ends with `found` or `refused`. Nothing
is assumed of who answers. The answers may fail, and two of them may contradict each other, since
pods come and go between two questions. `Cluster` is the type of those who answer, and `Lookup.run`
lets one of them answer a whole dialogue.

* `resolve` finds the container to read from, by `resolvePod` or `resolveCapp`.
* `openLog` gets the pod again, checks that it has the container, and only then asks for the log.
* `openTarget` is the one after the other.
-/

set_option autoImplicit false

namespace PodTail

/-- A log that a cluster has opened. Whoever opened it has to let it go again; `counted` says
whether the cluster keeps count of it. -/
structure OpenLog where
  feed : Feed
  counted : Bool
  deriving Repr

/-- A dialogue with a cluster. -/
inductive Lookup (α : Type) where
  | found (a : α)
  | refused (why : StreamFailure)
  /-- Asks for the pods of a namespace that carry the labels of a selector. -/
  | list (ns : String) (selector : Labels)
      (next : Except ClusterFailure (List Pod) → Lookup α)
  /-- Asks for a pod. -/
  | get (ns pod : String) (next : Except ClusterFailure Pod → Lookup α)
  /-- Asks for a container's log, with the last so many lines of its past. -/
  | log (ns pod container : String) (tail : Option Int)
      (next : Except ClusterFailure OpenLog → Lookup α)
  | note (e : Event) (next : Lookup α)

namespace Lookup

/-- Goes on after what has been found. -/
def bind {α β : Type} : Lookup α → (α → Lookup β) → Lookup β
  | .found a, f => f a
  | .refused why, _ => .refused why
  | .list ns selector next, f => .list ns selector fun r => (next r).bind f
  | .get ns pod next, f => .get ns pod fun r => (next r).bind f
  | .log ns pod container tail next, f => .log ns pod container tail fun r => (next r).bind f
  | .note e next, f => .note e (next.bind f)

/-- A question of a look-up. -/
inductive Question where
  | list (ns : String) (selector : Labels)
  | get (ns pod : String)
  | log (ns pod container : String) (tail : Option Int)
  deriving DecidableEq, Repr

/-- The question a look-up asks next, if it asks one. -/
def question? {α : Type} : Lookup α → Option Question
  | .list ns selector _ => some (.list ns selector)
  | .get ns pod _ => some (.get ns pod)
  | .log ns pod container tail _ => some (.log ns pod container tail)
  | _ => none

/-- What a look-up notes before it asks, finds or is refused, and the rest of it. -/
def skim {α : Type} : Lookup α → List Event × Lookup α
  | .note e next =>
    let (events, d) := next.skim
    (e :: events, d)
  | d => ([], d)

/-! ## Resolving a target -/

/-- The container of a pod that names none: its only one. -/
def onlyContainer (name : String) (p : Pod) : Lookup Endpoint :=
  match p.containers with
  | [only] => .found ⟨name, only⟩
  | _ => .refused (.ambiguousContainer name)

/-- Resolves a request for one pod. A container that was named is taken at its word. -/
def resolvePod (t : Target) : Lookup Endpoint :=
  let name := t.pod.getD t.identifier
  match t.container with
  | some container => .found ⟨name, container⟩
  | none =>
    .get t.ns name fun
      | .error cause => .refused (.podLookupFailed name cause)
      | .ok p => onlyContainer name p

/-- The pod to read from among those of a workload: the one that was named, or else the first. -/
def choose (t : Target) (candidates : List Pod) : Lookup Pod :=
  match candidates, t.pod with
  | [], _ => .refused (.noPodsForWorkload t.identifier t.ns)
  | p :: _, none => .found p
  | candidates, some wanted =>
    match candidates.find? (·.name = wanted) with
    | some p => .found p
    | none => .refused (.podNotInWorkload wanted t.identifier t.ns)

/-- Resolves a request for a workload. Its container bears its name, unless another was named. -/
def resolveCapp (label : String) (t : Target) : Lookup Endpoint :=
  .list t.ns (Selector.ofCapp label t.identifier) fun
    | .error cause => .refused (.workloadLookupFailed cause)
    | .ok candidates =>
      (choose t candidates).bind fun p => .found ⟨p.name, t.container.getD t.identifier⟩

/-- Resolves a target; the pods of a workload are those with its name under `label`. -/
def resolve (label : String) (t : Target) : Lookup Endpoint :=
  let found :=
    match t.kind with
    | .pod => resolvePod t
    | .capp => resolveCapp label t
  found.bind fun e => .note (.resolved t e) (.found e)

/-! ## Opening a log -/

/-- Opens the log of a container that its pod is seen to have. -/
def openLog (tail : Option Int) (ns : String) (e : Endpoint) : Lookup OpenLog :=
  .get ns e.pod fun
    | .error cause => .refused (.podLookupFailed e.pod cause)
    | .ok p =>
      if e.container ∈ p.containers then
        .log ns e.pod e.container tail fun
          | .error cause => .refused (.openFailed cause)
          | .ok source => .note (.opened ns e) (.found source)
      else .refused (.containerNotFound e.pod e.container)

/-- Resolves a target and opens its log. -/
def openTarget (label : String) (tail : Option Int) (t : Target) : Lookup OpenLog :=
  (resolve label t).bind fun e => openLog tail t.ns e

end Lookup

/-! ## Who answers -/

/-- Somebody who answers the questions of look-ups, and changes state by doing so. -/
structure Cluster (σ : Type) where
  list : σ → String → Labels → Except ClusterFailure (List Pod) × List Event × σ
  get : σ → String → String → Except ClusterFailure Pod × σ
  log : σ → String → String → String → Option Int → Except ClusterFailure OpenLog × σ
  /-- How many milliseconds the answer to a question takes; `none` is for ever. -/
  delay : σ → Lookup.Question → Option Nat
  /-- Lets an opened log go. -/
  release : σ → OpenLog → σ

/-- The outcome of a look-up, what was noted in the course of it, and the state it leaves. -/
def Lookup.run {α σ : Type} (c : Cluster σ) :
    Lookup α → σ → Except StreamFailure α × List Event × σ
  | .found a, s => (.ok a, [], s)
  | .refused why, s => (.error why, [], s)
  | .list ns selector next, s =>
    let (answer, events, s) := c.list s ns selector
    let (outcome, more, s) := (next answer).run c s
    (outcome, events ++ more, s)
  | .get ns pod next, s =>
    let (answer, s) := c.get s ns pod
    (next answer).run c s
  | .log ns pod container tail next, s =>
    let (answer, s) := c.log s ns pod container tail
    (next answer).run c s
  | .note e next, s =>
    let (outcome, more, s) := next.run c s
    (outcome, e :: more, s)

end PodTail
