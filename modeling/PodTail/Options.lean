import PodTail.Net.SocketAddress
import PodTail.Text.Cut

/-!
# Options of the command line

`Options.ofArguments` reads the arguments the service is started with, or gives the `Complaint`
about them. Its state is a `Draft`, which `Draft.takeAll` folds over the arguments.

* The value of an option is the next argument or stands behind an `=`. An argument that begins with
  a hyphen is not taken for a value.
* No option may be given twice, and none may be shortened.
* A value in an argument of its own is kept in `pending` and read by `Draft.settle` when the next
  option is taken, or at the end. So an unknown argument behind a value that cannot be read is what
  is complained about.
-/

set_option autoImplicit false

namespace PodTail

/-- The settings of the service. -/
structure Options where
  bind : SocketAddress
  context : Option String
  tailLines : Int
  throttleMs : Nat
  cappLabel : String
  tokenHeader : String
  verbose : Bool
  deriving DecidableEq, Repr

namespace Options

/-- What is set unless an option says otherwise. -/
def standard : Options where
  bind := .v4 [0, 0, 0, 0] 8080
  context := none
  tailLines := 10
  throttleMs := 1000
  cappLabel := "rcs.dana.io/parent-capp"
  tokenHeader := "Sec-WebSocket-Protocol"
  verbose := false

/-- Why the options were not taken. -/
inductive Complaint where
  | badValue
  | valueMissing
  | unknown
  | repeated
  | valueNotTaken
  /-- Not an error: somebody asked what the options are. -/
  | helpWanted
  deriving DecidableEq, Repr

/-- The options that take a value. -/
inductive Key where
  | bind
  | context
  | tailLines
  | throttleMs
  | cappLabel
  | tokenHeader
  deriving DecidableEq, Repr

/-- The option of a name. -/
def Key.named? : String → Option Key
  | "bind" => some .bind
  | "context" => some .context
  | "tail-lines" => some .tailLines
  | "throttle-ms" => some .throttleMs
  | "capp-label" => some .cappLabel
  | "token-header" => some .tokenHeader
  | _ => none

/-! ## Numbers -/

/-- The number that some decimal digits write. -/
def digits? (cs : List Char) : Option Nat :=
  if cs ≠ [] ∧ cs.all Char.isDigit then some (cs.foldl (fun n c => n * 10 + (c.toNat - 48)) 0)
  else none

/-- Reads a number that is not negative, below 2⁶⁴. -/
def count? (s : String) : Option Nat :=
  let n :=
    match s.toList with
    | '+' :: rest => digits? rest
    | cs => digits? cs
  n.filter (· < 18446744073709551616)

/-- Reads a number between -2⁶³ and 2⁶³. -/
def number? (s : String) : Option Int :=
  let n : Option Int :=
    match s.toList with
    | '-' :: rest => (digits? rest).map fun n => -(n : Int)
    | '+' :: rest => (digits? rest).map fun n => (n : Int)
    | cs => (digits? cs).map fun n => (n : Int)
  n.filter fun n => decide (-9223372036854775808 ≤ n ∧ n < 9223372036854775808)

/-! ## Arguments -/

/-- The options so far, which of them were given, and the one that stands before its value or
behind it unread. -/
structure Draft where
  options : Options
  given : List Key
  pending : Option (Key × Option String)

/-- Gives an option its value. -/
def Draft.set (d : Draft) (k : Key) (value : String) : Except Complaint Draft :=
  if k ∈ d.given then .error .repeated
  else
    let options : Option Options :=
      match k with
      | .bind => (SocketAddress.read? value).map fun a => { d.options with bind := a }
      | .context => some { d.options with context := some value }
      | .tailLines => (number? value).map fun n => { d.options with tailLines := n }
      | .throttleMs => (count? value).map fun n => { d.options with throttleMs := n }
      | .cappLabel => some { d.options with cappLabel := value }
      | .tokenHeader => some { d.options with tokenHeader := value }
    match options with
    | some options => .ok { d with options, given := k :: d.given }
    | none => .error .badValue

/-- Reads the value that is still unread. -/
def Draft.settle (d : Draft) : Except Complaint Draft :=
  match d.pending with
  | none => .ok d
  | some (_, none) => .error .valueMissing
  | some (k, some value) => { d with pending := none }.set k value

/-- Turns the one switch on. -/
def Draft.turnVerbose (d : Draft) : Except Complaint Draft := do
  let d ← d.settle
  if d.options.verbose then .error .repeated
  else .ok { d with options := { d.options with verbose := true } }

/-- Answers a call for help. -/
def Draft.help (d : Draft) : Except Complaint Draft := do
  let _ ← d.settle
  .error .helpWanted

/-- Takes an option by its name, with the value that stands behind its `=`. -/
def Draft.long (d : Draft) (name : String) (value : Option String) : Except Complaint Draft :=
  match Key.named? name, name, value with
  | some k, _, some value => d.settle >>= fun d => d.set k value
  | some k, _, none => d.settle >>= fun d => .ok { d with pending := some (k, none) }
  | none, "verbose", none => d.turnVerbose
  | none, "help", none => d.help
  | none, "verbose", some _ => .error .valueNotTaken
  | none, "help", some _ => .error .valueNotTaken
  | none, _, _ => .error .unknown

/-- Takes switches by their letters. -/
def Draft.short (d : Draft) : List Char → Except Complaint Draft
  | [] => .ok d
  | 'v' :: rest => d.turnVerbose >>= fun d => d.short rest
  | 'h' :: _ => d.help
  | _ :: _ => .error .unknown

/-- Takes an argument that begins with no hyphen, or is nothing but one. -/
def Draft.value (d : Draft) (s : String) : Except Complaint Draft :=
  match d.pending with
  | some (k, none) => .ok { d with pending := some (k, some s) }
  | _ => .error .unknown

/-- Takes one argument. -/
def Draft.take (d : Draft) (arg : String) : Except Complaint Draft :=
  match arg.toList with
  | '-' :: '-' :: rest =>
    match Cut.first? '=' rest with
    | some (name, value) => d.long (String.ofList name) (some (String.ofList value))
    | none => d.long (String.ofList rest) none
  | '-' :: c :: rest => d.short (c :: rest)
  | _ => d.value arg

/-- Takes arguments in turn. Nothing may stand behind a `--`. -/
def Draft.takeAll (d : Draft) : List String → Except Complaint Draft
  | [] => d.settle
  | "--" :: [] => d.settle
  | "--" :: _ :: _ => .error .unknown
  | arg :: rest => d.take arg >>= fun d => d.takeAll rest

/-- Reads the arguments of the command line. -/
def ofArguments (args : List String) : Except Complaint Options :=
  (Draft.takeAll ⟨standard, [], none⟩ args).map (·.options)

/-- What the options are. -/
def help : String :=
"Stream Capp and pod logs to WebSocket clients

Usage: capp-logs [OPTIONS]

Options:
      --bind <BIND>                  Address to listen on [default: 0.0.0.0:8080]
      --context <CONTEXT>            Kubeconfig context (defaults to the current context)
      --tail-lines <TAIL_LINES>      Lines of history sent when a stream is opened [default: 10]
      --throttle-ms <THROTTLE_MS>    Minimum interval between forwarded lines, in milliseconds [default: 1000]
      --capp-label <CAPP_LABEL>      Label key linking a pod to its parent Capp [default: rcs.dana.io/parent-capp]
      --token-header <TOKEN_HEADER>  Request header carrying the session token [default: Sec-WebSocket-Protocol]
  -v, --verbose                      Enable debug logging
  -h, --help                         Print help
"

end Options

end PodTail
