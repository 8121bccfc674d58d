import PodTail.Web.Message

/-!
# Connections

What the HTTP server does to a request before it is handled and to the response after it.
`Connection.arriving` trims the values of the headers and drops `Transfer-Encoding`.
`Connection.fault?` refuses a request with too many headers, too many bytes or a wrong
`Content-Length`; the connection is closed behind such a refusal.

`Connection.goesOn` reads from the `Connection` headers whether the connection is kept, and
`Connection.leaving` adds `connection: close` to the response if it is not.
-/

set_option autoImplicit false

namespace PodTail

namespace Connection

/-! ## Taking a request -/

/-- How many headers a request may have. -/
def headerLimit : Nat := 100

/-- How many bytes a request may have before its body. -/
def headLimit : Nat := 417792

/-- The greatest length of a body that can be told. -/
def greatestLength : Nat := 18446744073709551613

/-- The bytes of a request before its body: a line for its target, one for each header, and an empty
one. -/
def headLength (r : Request) : Nat :=
  r.headers.foldl (fun n h => n + (Utf8.bytes h.name).length + h.value.length + 4)
    ((Utf8.bytes r.method).length + (Utf8.bytes r.uri.text).length + 14)

/-- The number that some bytes write, if it fits into 64 bits. -/
def length? (bs : List UInt8) : Option Nat :=
  if bs = [] || !bs.all Ascii.isDigit then none
  else
    let n := bs.foldl (fun n b => n * 10 + Ascii.digit b) 0
    if n < 18446744073709551616 then some n else none

/-- The status with which the lengths that a request tells are refused, if they are. All of them
must be the same. -/
def lengthFault? (told : Option Nat) : List (List UInt8) → Option Nat
  | [] => none
  | v :: rest =>
    match length? v, told with
    | none, _ => some 400
    | some n, some m => if n = m then lengthFault? told rest else some 400
    | some n, none => if greatestLength < n then some 431 else lengthFault? (some n) rest

/-- The status with which a request is refused, if it is. -/
def fault? (r : Request) : Option Nat :=
  if headerLimit < r.headers.length || headLimit < headLength r then some 431
  else lengthFault? none (r.headers.all "Content-Length")

/-- The headers that arrive. -/
def arriving (h : Headers) : Headers :=
  (h.filter fun e => !Header.sameName e.name "Transfer-Encoding").map fun e =>
    { e with value := Header.trim e.value }

/-! ## Ending -/

/-- Whether a value has a word among its parts, in any case. -/
def names (word : String) (v : List UInt8) : Bool :=
  match Header.visible? v with
  | some v => (Header.parts v).any fun part => Header.lower part = Utf8.bytes word
  | none => false

/-- Whether the connection goes on after the answer to a request; of several wishes the last
counts. -/
def goesOn (h : Headers) : Bool :=
  (h.all "Connection").foldl
    (fun on v => if on then !names "close" v else names "keep-alive" v) true

/-- The header that tells the end. -/
def ending : String × String := ("connection", "close")

/-- The answer that ends a connection. -/
def last (r : Response) : Response :=
  { r with headers := ending :: r.headers.filter (·.1 ≠ ending.1) }

/-- The answer to a request that is refused. -/
def refusal (status : Nat) : Response := last (.bare status)

/-- The answer to a request as it goes out. -/
def leaving (h : Headers) (r : Response) : Response :=
  if goesOn h then r else last r

end Connection

end PodTail
