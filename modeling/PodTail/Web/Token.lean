import PodTail.Web.Header

/-!
# Session tokens

`Token.of?` is the token of a streaming request: the first listed value in the configured header
(`ofHeader?`), or else the `Authorization` header, with a leading `Bearer ` taken off if there is
one (`ofAuthorization?`). A token is trimmed and not empty, and a header that is no visible text has
none.

`Token.agreed?` is the protocol that the response names: the token, if and only if the client has
offered it as a protocol.
-/

set_option autoImplicit false

namespace PodTail

namespace Token

/-- What a text must be to be a token: not empty once the blanks around it are gone. -/
def trimmed? (bs : List UInt8) : Option (List UInt8) :=
  let t := Header.trim bs
  if t = [] then none else some t

/-- The token in the header set for it: the first value. -/
def ofHeader? (h : Headers) (name : String) : Option (List UInt8) :=
  (h.first? name).bind fun v =>
    (Header.visible? v).bind fun v => trimmed? (Cut.before 0x2C v)

/-- What a credential may begin with. -/
def bearer : List UInt8 := Utf8.bytes "Bearer "

/-- A text without what it may begin with. -/
def withoutLead (lead bs : List UInt8) : List UInt8 :=
  if lead.isPrefixOf bs then bs.drop lead.length else bs

/-- The token in the `Authorization` header. -/
def ofAuthorization? (h : Headers) : Option (List UInt8) :=
  (h.first? "Authorization").bind fun v =>
    (Header.visible? v).bind fun v => trimmed? (withoutLead bearer v)

/-- The token of a request. -/
def of? (h : Headers) (name : String) : Option (List UInt8) :=
  (ofHeader? h name).or (ofAuthorization? h)

/-- The name of the header in which a client offers protocols. -/
def protocolHeader : String := "Sec-WebSocket-Protocol"

/-- The protocols a client offers. -/
def offered (h : Headers) : List (List UInt8) :=
  (h.all protocolHeader).flatMap Header.parts

/-- The protocol that is agreed on: the token, if it is offered. -/
def agreed? (h : Headers) (token : List UInt8) : Option (List UInt8) :=
  if token ∈ offered h then some token else none

end Token

end PodTail
