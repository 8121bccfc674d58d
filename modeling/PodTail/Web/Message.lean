import PodTail.Json.Printer
import PodTail.Net.Uri
import PodTail.Web.Header

/-!
# Requests and responses

HTTP messages as far as the service looks at them. `Request.make` builds a request and tells the
first `Fault`: a method and the name of a header must be a token (`Header.isToken`), and a value
must not contain a control character other than the tab.
-/

set_option autoImplicit false

namespace PodTail

/-- A request. -/
structure Request where
  method : String
  uri : Uri
  headers : Headers
  /-- Whether it came over a connection that can be handed over. -/
  upgradable : Bool
  deriving DecidableEq, Repr

namespace Request

/-- Why a request cannot be made. -/
inductive Fault where
  | badMethod
  | badAddress (fault : Uri.Fault)
  | badName
  | badValue
  deriving DecidableEq, Repr

/-- The words for a fault. -/
def Fault.message : Fault → String
  | .badMethod => "invalid HTTP method"
  | .badAddress fault => fault.message
  | .badName => "invalid HTTP header name"
  | .badValue => "failed to parse header value"

/-- The fault of a header, if it has one. -/
def headerFault? (h : Header) : Option Fault :=
  if !Header.isToken (Utf8.bytes h.name) then some .badName
  else if !h.value.all Header.mayHold then some .badValue
  else none

/-- Makes a request; of several faults the first one is told. -/
def make (method address : String) (headers : Headers) (upgradable : Bool) :
    Except Fault Request :=
  if !Header.isToken (Utf8.bytes method) then .error .badMethod
  else
    match Uri.read address with
    | .error fault => .error (.badAddress fault)
    | .ok uri =>
      match headers.findSome? headerFault? with
      | some fault => .error fault
      | none => .ok ⟨method, uri, headers, upgradable⟩

end Request

/-- A response. -/
structure Response where
  status : Nat
  headers : List (String × String)
  body : String
  deriving DecidableEq, Repr

namespace Response

/-- A response with nothing in it. -/
def bare (status : Nat) : Response := ⟨status, [], ""⟩

/-- A text. -/
def plain (status : Nat) (body : String) : Response :=
  ⟨status, [("content-type", "text/plain; charset=utf-8")], body⟩

/-- A document, given as its text. -/
def json (status : Nat) (body : String) : Response :=
  ⟨status, [("content-type", "application/json")], body⟩

/-- The response to a request that wants none of the body. -/
def headOnly (r : Response) : Response := { r with body := "" }

end Response

end PodTail
