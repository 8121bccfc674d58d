import PodTail.Failure
import PodTail.Net.Form
import PodTail.Net.Uri

/-!
# Requests to the API server

`Request.address` is the text of the address for each question of a look-up, and `Request.target`
the address as it is read back and sent. The namespace and the name of a pod are put into the path
as they are, without any escaping, so a slash, a `?` or a `#` in one of them makes a different
address. The values in the query are escaped by `Form.encodeText`.
-/

set_option autoImplicit false

namespace PodTail

namespace Api

/-- A question to the API server. -/
inductive Request where
  | list (ns selector : String)
  | get (ns pod : String)
  | log (ns pod container : String) (tail : Option Int)
  deriving DecidableEq, Repr

namespace Request

/-- The path to the pods of a namespace. -/
def podsPath (ns : String) : String :=
  "/api/v1/namespaces/" ++ ns ++ "/pods"

/-- The text of a request's address. -/
def address : Request → String
  | .list ns selector => podsPath ns ++ "?&labelSelector=" ++ Form.encodeText selector
  | .get ns pod => podsPath ns ++ "/" ++ pod
  | .log ns pod container tail =>
    podsPath ns ++ "/" ++ pod ++ "/log?&container=" ++ Form.encodeText container ++ "&follow=true"
      ++ (match tail with
          | some n => "&tailLines=" ++ toString n
          | none => "")

/-- The address a request is sent to, if it can be sent. A pod without a name is not asked for. -/
def target : Request → Except BadRequest Uri
  | .get _ "" => .error .emptyName
  | r => (Uri.read r.address).mapError .badAddress

end Request

end Api

end PodTail
