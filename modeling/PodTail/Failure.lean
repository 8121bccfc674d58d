import PodTail.Json.Fault
import PodTail.Json.Printer
import PodTail.Net.Uri
import PodTail.Text.Quoted
import PodTail.Text.Utf8

/-!
# What can fail

There are three types of failures, from the inside to the outside, each with a function `message`
for its text.

* `ClusterFailure`: a cluster gives no answer that can be used. `ClusterFailure.forPod` turns the
  API server's 404 into `podNotFound`, and `fatal` picks out the one failure that nobody handles.
* `StreamFailure`: a log cannot be opened, most often because the cluster has failed. Its message is
  what the client reads in the error frame.
* `Refusal`: an HTTP request is answered with an error. It has a status and a JSON body.
-/

set_option autoImplicit false

namespace PodTail

/-! ## The cluster -/

/-- What the API server says about a request it did not carry out. -/
structure StatusReport where
  status : String
  message : String
  reason : String
  code : Nat
  deriving DecidableEq, Repr

/-- The report with its fields named and its texts quoted. -/
def StatusReport.fields (s : StatusReport) : String :=
  "ErrorResponse \x7b status: " ++ Quoted.text s.status ++ ", message: " ++ Quoted.text s.message
    ++ ", reason: " ++ Quoted.text s.reason ++ ", code: " ++ toString s.code ++ " \x7d"

/-- Why a request was not even sent. -/
inductive BadRequest where
  | emptyName
  | badAddress (fault : Uri.Fault)
  deriving DecidableEq, Repr

/-- The words for an unsendable request. -/
def BadRequest.message : BadRequest → String
  | .emptyName => "failed to validate request: A non-empty name is required"
  | .badAddress fault => "failed to build request: " ++ fault.message

/-- Why the cluster gave no answer that can be used. -/
inductive ClusterFailure where
  | podNotFound (pod : String)
  /-- The API server refused. -/
  | refused (report : StatusReport)
  /-- The API server was not reached, or broke off. -/
  | unreachable (reason : String)
  /-- The answer is not the document it should be. -/
  | unreadable (fault : Json.Fault)
  /-- The answer is no text. -/
  | garbled (fault : Utf8.Fault)
  | unsendable (cause : BadRequest)
  /-- The restart counts of a pod do not add up within 32 bits. -/
  | overflow
  deriving DecidableEq, Repr

namespace ClusterFailure

/-- The words for a cluster's failure. -/
def message : ClusterFailure → String
  | .podNotFound pod => "pods \"" ++ pod ++ "\" not found"
  | .refused r => "ApiError: " ++ r.message ++ ": " ++ r.reason ++ " (" ++ r.fields ++ ")"
  | .unreachable reason => "ServiceError: " ++ reason
  | .unreadable fault => "Error deserializing response: " ++ fault.message
  | .garbled fault => "UTF-8 Error: " ++ fault.message
  | .unsendable cause => "Failed to build request: " ++ cause.message
  | .overflow => "attempt to add with overflow"

/-- Whether a failure is one that nobody handles. Who asked is not told of it: a request breaks off
without a response, and a session without a frame or a close. -/
def fatal : ClusterFailure → Bool
  | .overflow => true
  | _ => false

/-- A failure of a request about one pod: where the report's code says that nothing was found, it
is the pod that was not. -/
def forPod (pod : String) : ClusterFailure → ClusterFailure
  | .refused r => if r.code = 404 then .podNotFound pod else .refused r
  | failure => failure

end ClusterFailure

/-! ## The stream -/

/-- Why a log could not be opened. -/
inductive StreamFailure where
  | noPodsForWorkload (capp ns : String)
  | podNotInWorkload (pod capp ns : String)
  | workloadLookupFailed (cause : ClusterFailure)
  | ambiguousContainer (pod : String)
  | podLookupFailed (pod : String) (cause : ClusterFailure)
  | containerNotFound (pod container : String)
  | openFailed (cause : ClusterFailure)
  deriving DecidableEq, Repr

/-- The words for a stream's failure. -/
def StreamFailure.message : StreamFailure → String
  | .noPodsForWorkload capp ns => "no pods found for Capp " ++ capp ++ " in namespace " ++ ns
  | .podNotInWorkload pod capp ns =>
    "pod '" ++ pod ++ "' not found for Capp " ++ capp ++ " in namespace " ++ ns
  | .workloadLookupFailed cause => "error fetching Capp pods: " ++ cause.message
  | .ambiguousContainer pod =>
    "error opening log stream: pod " ++ pod
      ++ " has multiple containers, please specify the container name"
  | .podLookupFailed _ cause => "error opening log stream: failed to get pod: " ++ cause.message
  | .containerNotFound pod container =>
    "error opening log stream: container " ++ container ++ " not found in the pod " ++ pod
  | .openFailed cause => "error opening log stream: " ++ cause.message

/-! ## The request -/

/-- Why a request got an error for its answer. -/
inductive Refusal where
  /-- A streaming request that asks for no WebSocket, or not in the right way. -/
  | handshake (reason : String)
  /-- A streaming request without a session token. -/
  | noToken
  /-- A look-up that failed in the cluster. -/
  | cluster (cause : ClusterFailure)
  deriving DecidableEq, Repr

namespace Refusal

/-- The words for a refusal. -/
def message : Refusal → String
  | .handshake reason => "websocket handshake rejected: " ++ reason
  | .noToken => "token not found"
  | .cluster cause => cause.message

/-- The HTTP status of a refusal. -/
def status : Refusal → Nat
  | .handshake _ => 400
  | .noToken => 401
  | .cluster (.podNotFound _) => 404
  | .cluster _ => 500

/-- The JSON body of a refusal. -/
def body (r : Refusal) : String :=
  (Json.object [("error", .text r.message)]).compact

end Refusal

end PodTail
