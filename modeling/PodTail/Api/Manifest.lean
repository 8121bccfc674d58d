import PodTail.Failure
import PodTail.Json.Value
import PodTail.Pod
import PodTail.Time.Timestamp

/-!
# Manifests

`Manifest.pod` makes a `Pod` of a manifest as the API server writes it. Nearly every member may be
missing or null. A pod without a name gets its `generateName`, a phase that is not set is
`Unknown`, and a creation time that cannot be written down again is dropped (`writable`). A member
of the wrong type counts as missing here; documents that come from a server have been checked
against `Schema.pod` before.

The one thing that can fail is `totalRestarts`. It adds the restart counts up with `add`, in 32 bits
and from the first to the last, and fails with `ClusterFailure.overflow` as soon as a sum does not
fit.
-/

set_option autoImplicit false

namespace PodTail

namespace Manifest

/-- A text under a key. -/
def textUnder (key : String) (j : Json) : Option String :=
  (j.given? key).bind Json.text?

/-- The items of the list under a key. -/
def itemsUnder (key : String) (j : Json) : List Json :=
  ((j.given? key).map Json.items).getD []

/-- A whole number of 32 bits. -/
def Narrow (n : Int) : Prop :=
  -2147483648 ≤ n ∧ n ≤ 2147483647

instance : DecidablePred Narrow := fun _ => inferInstanceAs (Decidable (_ ∧ _))

/-- The sum of two 32-bit integers, if it is one. -/
def add (a b : Int32) : Except ClusterFailure Int32 :=
  if Narrow (a.toInt + b.toInt) then .ok (a + b) else .error .overflow

/-- The sum of restart counts, added up from the first to the last. -/
def totalRestarts (counts : List Int32) : Except ClusterFailure Int32 :=
  counts.foldlM add 0

/-- The labels of the pod that a manifest describes. -/
def labels (j : Json) : Labels :=
  let about := (j.given? "metadata").getD .null
  let labels := (about.given? "labels").getD .null
  Labels.ofList (labels.members.filterMap fun (k, v) => v.text?.map fun text => (k, text))

/-- An instant that can be written down again; any other is forgotten. -/
def writable (i : Instant) : Option Instant :=
  if (Timestamp.text? i).isSome then some i else none

/-- An instant. -/
def instant? (s : String) : Option Instant :=
  (Timestamp.read s).toOption.bind writable

/-- The restart count of a container. -/
def restartCount (j : Json) : Int32 :=
  Int32.ofInt (((j.given? "restartCount").bind Json.int?).getD 0)

/-- The pod that a manifest describes. -/
def pod (j : Json) : Except ClusterFailure Pod :=
  let about := (j.given? "metadata").getD .null
  let spec := (j.given? "spec").getD .null
  let status := (j.given? "status").getD .null
  (totalRestarts ((itemsUnder "containerStatuses" status).map restartCount)).map fun restarts =>
    { name := ((textUnder "name" about).or (textUnder "generateName" about)).getD ""
      containers := (itemsUnder "containers" spec).map fun c => (textUnder "name" c).getD ""
      labels := labels j
      phase := (textUnder "phase" status).getD "Unknown"
      restarts
      created := (textUnder "creationTimestamp" about).bind instant? }

end Manifest

end PodTail
