import PodTail.Digest.Sha1
import PodTail.Text.Base64
import PodTail.Web.Header

/-!
# WebSocket handshakes

`Handshake.key` checks a request in a fixed order (method, `Connection`, `Upgrade`, key, version,
connection) and gives its key, or the first `Fault`. `Handshake.accept` is the key that the response
answers with, the SHA-1 digest of the request's key and a fixed text.
-/

set_option autoImplicit false

namespace PodTail

namespace Handshake

/-- What a request lacks. -/
inductive Fault where
  | methodNotGet
  | connectionHeader
  | upgradeHeader
  | keyMissing
  | version
  /-- There is no connection to be handed over. -/
  | notUpgradable
  deriving DecidableEq, Repr

/-- The words for what a request lacks. -/
def Fault.message : Fault → String
  | .methodNotGet => "Request method must be `GET`"
  | .connectionHeader => "Connection header did not include 'upgrade'"
  | .upgradeHeader => "`Upgrade` header did not include 'websocket'"
  | .keyMissing => "`Sec-WebSocket-Key` header missing"
  | .version => "`Sec-WebSocket-Version` header did not include '13'"
  | .notUpgradable => "WebSocket request couldn't be upgraded since no upgrade state was present"

/-- Whether a word stands somewhere in some bytes. -/
def holds (word : List UInt8) : List UInt8 → Bool
  | [] => word.isEmpty
  | b :: rest => word.isPrefixOf (b :: rest) || holds word rest

/-- Whether the first value under a name is a text with a word in it, in any case. -/
def includes (h : Headers) (name word : String) : Bool :=
  match h.first? name with
  | some v => (Utf8.read? v).isSome && holds (Utf8.bytes word) (Header.lower v)
  | none => false

/-- Whether the first value under a name is a word, in any case. -/
def equals (h : Headers) (name word : String) : Bool :=
  match h.first? name with
  | some v => Header.lower v = Utf8.bytes word
  | none => false

/-- The key of a request, or the first thing it lacks. -/
def key (method : String) (h : Headers) (upgradable : Bool) : Except Fault (List UInt8) :=
  if method ≠ "GET" then .error .methodNotGet
  else if !includes h "Connection" "upgrade" then .error .connectionHeader
  else if !equals h "Upgrade" "websocket" then .error .upgradeHeader
  else
    match h.first? "Sec-WebSocket-Key" with
    | none => .error .keyMissing
    | some k =>
      if !equals h "Sec-WebSocket-Version" "13" then .error .version
      else if !upgradable then .error .notUpgradable
      else .ok k

/-- The text every key is joined to. -/
def suffix : String := "258EAFA5-E914-47DA-95CA-C5AB0DC85B11"

/-- The answer to a key. -/
def accept (key : List UInt8) : String :=
  Base64.encode (Sha1.digest (key ++ Utf8.bytes suffix))

end Handshake

end PodTail
