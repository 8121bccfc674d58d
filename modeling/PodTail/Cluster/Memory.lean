import PodTail.Lookup

/-!
# A cluster in memory

`Memory.cluster` answers from a list of pods and the records of their logs. `Memory.get` finds the
first pod with a namespace and a name, `Memory.select` all pods of a namespace whose labels cover a
selector. A log without a record has the one line of `unwritten`, and behind their last line all
logs do what `ending` says. `log` counts an opened log, `release` a closed one.
-/

set_option autoImplicit false

namespace PodTail

namespace Memory

/-- What a log does after its last line. -/
inductive Ending where
  | close
  | hang
  | fail
  deriving DecidableEq, Repr

/-- What a reader meets after the last line. -/
def Ending.steps : Ending → List Feed.Step
  | .close => []
  | .hang => [.silence]
  | .fail => [.failure "connection reset by peer"]

/-- The lines of a container's log, in whichever namespace its pod lives. -/
structure Record where
  pod : String
  container : String
  lines : List String
  deriving DecidableEq, Repr

/-- The log that nobody has written. -/
def unwritten : List String := ["fake logs"]

end Memory

/-- The pods of a cluster, each with its namespace, their logs, and what has been done with them. -/
structure Memory where
  pods : List (String × Pod)
  records : List Memory.Record
  ending : Memory.Ending
  opened : Nat
  closed : Nat
  /-- The lengths of the pasts asked for, one for each log opened. -/
  tails : List (Option Int)

namespace Memory

/-- A pod of the given name, with nothing but its containers and its workload. -/
def plainPod (name : String) (labels : Labels) (containers : List String) : Pod :=
  ⟨name, containers, labels, "Running", 0, none⟩

/-- The first pod of a namespace and name. -/
def find? (m : Memory) (ns name : String) : Option Pod :=
  (m.pods.find? fun p => p.1 = ns && p.2.name = name).map (·.2)

/-- The pods of a namespace that carry the labels of a selector. -/
def select (m : Memory) (ns : String) (selector : Labels) : List Pod :=
  (m.pods.filter fun p => p.1 = ns && p.2.labels.covers selector).map (·.2)

/-- The lines of a log; of several records the last counts. -/
def lines (m : Memory) (pod container : String) : List String :=
  match m.records.reverse.find? fun r => r.pod = pod && r.container = container with
  | some r => r.lines
  | none => unwritten

/-- Looks a pod up. -/
def get (m : Memory) (ns name : String) : Except ClusterFailure Pod :=
  match m.find? ns name with
  | some p => .ok p
  | none => .error (.podNotFound name)

/-- Opens a log. -/
def log (m : Memory) (ns pod container : String) (tail : Option Int) :
    Except ClusterFailure OpenLog × Memory :=
  match m.get ns pod with
  | .error cause => (.error cause, m)
  | .ok _ =>
    (.ok ⟨(m.lines pod container).map .line ++ m.ending.steps, true⟩,
      { m with opened := m.opened + 1, tails := m.tails ++ [tail] })

/-- The cluster that answers from memory. -/
def cluster : Cluster Memory where
  list m ns selector := (.ok (m.select ns selector), [], m)
  get m ns name := (m.get ns name, m)
  log m ns pod container tail := m.log ns pod container tail
  delay _ _ := some 0
  release m _ := { m with closed := m.closed + 1 }

end Memory

end PodTail
