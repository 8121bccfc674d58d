import PodTail.Net.Form
import PodTail.Web.Message

/-!
# Routes

`Route.of` gives the route of a request, or the first `Fault`, in a fixed order: the path, the
method, the names, the query. `path?` matches the path by its pieces between the slashes. A piece
for a name may be empty, but not as the last piece of the path. `Route.name` decodes percent escapes
and needs UTF-8 then, and `Route.query` reads the query as a form, in which no known key may come
twice.
-/

set_option autoImplicit false

namespace PodTail

/-- What a request asks for. -/
inductive Route where
  | health
  | podLogs (ns pod : String) (container : Option String)
  | cappLogs (ns capp : String) (pod container : Option String)
  | containers (ns pod : String)
  | pods (ns capp : String)
  deriving DecidableEq, Repr

namespace Route

/-- Why a request leads nowhere. -/
inductive Fault where
  | unknownPath
  | wrongMethod
  /-- A name that is not UTF-8, by what it stands for. -/
  | badName (param : String)
  | repeatedKey (key : String)
  deriving DecidableEq, Repr

/-- The response to a request that leads nowhere. -/
def Fault.response : Fault → Response
  | .unknownPath => .bare 404
  | .wrongMethod => ⟨405, [("allow", "GET,HEAD")], ""⟩
  | .badName param => .plain 400 ("Invalid URL: Invalid UTF-8 in `" ++ param ++ "`")
  | .repeatedKey key =>
    .plain 400 ("Failed to deserialize query string: duplicate field `" ++ key ++ "`")

/-- A path, with its names as they stand in it. -/
inductive Path where
  | health
  | podLogs (ns pod : String)
  | cappLogs (ns capp : String)
  | containers (ns pod : String)
  | pods (ns capp : String)
  deriving DecidableEq, Repr

/-- Reads a path. -/
def path? (u : Uri) : Option Path :=
  match u.segments with
  | ["", "healthz"] => some .health
  | ["", "v1", "logs", "pod", ns, pod] => if pod = "" then none else some (.podLogs ns pod)
  | ["", "v1", "logs", "capp", ns, capp] => if capp = "" then none else some (.cappLogs ns capp)
  | ["", "v1", "namespaces", ns, "pods", pod, "containers"] => some (.containers ns pod)
  | ["", "v1", "capps", ns, capp, "pods"] => some (.pods ns capp)
  | _ => none

/-- Reads a name. -/
def name (param s : String) : Except Fault String :=
  match Utf8.read? (Percent.decode (Utf8.bytes s)) with
  | some n => .ok n
  | none => .error (.badName param)

/-- The first key among `known` that comes a second time. -/
def repeated? (known : List String) : List String → List (String × String) → Option String
  | _, [] => none
  | seen, (k, _) :: rest =>
    if k ∈ known then
      if k ∈ seen then some k else repeated? known (k :: seen) rest
    else repeated? known seen rest

/-- The pairs of a query in which no known key comes twice. -/
def query (known : List String) (u : Uri) : Except Fault (List (String × String)) :=
  let pairs := (u.query.map Form.pairs).getD []
  match repeated? known [] pairs with
  | some k => .error (.repeatedKey k)
  | none => .ok pairs

/-- Where a request leads. -/
def of (r : Request) : Except Fault Route := do
  let some path := path? r.uri | .error .unknownPath
  if r.method ≠ "GET" ∧ r.method ≠ "HEAD" then .error .wrongMethod
  match path with
  | .health => .ok .health
  | .podLogs ns pod =>
    let ns ← name "namespace" ns
    let pod ← name "pod_name" pod
    let q ← query ["container"] r.uri
    .ok (.podLogs ns pod (q.lookup "container"))
  | .cappLogs ns capp =>
    let ns ← name "namespace" ns
    let capp ← name "capp_name" capp
    let q ← query ["container", "podName"] r.uri
    .ok (.cappLogs ns capp (q.lookup "podName") (q.lookup "container"))
  | .containers ns pod => do
    .ok (.containers (← name "namespace" ns) (← name "pod_name" pod))
  | .pods ns capp => do
    .ok (.pods (← name "namespace" ns) (← name "capp_name" capp))

end Route

end PodTail
