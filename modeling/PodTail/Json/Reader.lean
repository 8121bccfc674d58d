import PodTail.Json.Pass
import PodTail.Json.Shape

/-!
# Reading JSON

`Json.read` reads a text as one document of a `Shape`, or gives the first fault in the order of the
text. A value that does not fit is refused before what follows it is looked at. Members that the
shape does not ask for are passed over and left out of the document.

`valueFrom`, `listFrom`, `objectFrom`, `itemsFrom` and `membersFrom` are mutually recursive, with
the number of steps and the depth as arguments. `patience` allows more steps than any text takes.

The place of a fault depends on where the reader stands when it gives up.

* `refuse` and `wantedScalar` stand behind a value without parts, but before a list or an object
  that is not wanted at all.
* It stands within a list that is refused where a loose object is wanted (`leaveList`), and within
  an object that is refused for one of its members. Such a fault is placed behind the closing
  bracket, if that comes next.
-/

set_option autoImplicit false

namespace PodTail

namespace Json

namespace Reader

open Ascii (is isDigit)

/-! ## Values without parts -/

/-- Reads a value without parts, in at most so many steps. -/
def scalar (n : Nat) (bs : List UInt8) : Reads Json :=
  match bs with
  | [] => ahead .endInValue []
  | b :: rest =>
    if is 'n' b then word .null "ull".toList rest
    else if is 't' b then word (.bool true) "rue".toList rest
    else if is 'f' b then word (.bool false) "alse".toList rest
    else if is '-' b then number true rest
    else if isDigit b then number false bs
    else if is '"' b then (textFrom n [] rest).map fun (s, r) => (.text s, r)
    else ahead .valueMissing bs

/-- Refuses a value, where something else is wanted. -/
def refuse (n : Nat) (wanted : String) (bs : List UInt8) : Reads Json :=
  match bs with
  | [] => ahead .endInValue []
  | b :: _ =>
    if is '[' b then behind (.wrongType (Json.list []).kind wanted) bs
    else if is '\x7b' b then behind (.wrongType (Json.object []).kind wanted) bs
    else
      match scalar n bs with
      | .error stop => .error stop
      | .ok (j, rest) => behind (.wrongType j.kind wanted) rest

/-- What is left of a list that has been opened and is refused. -/
def leaveList (bs : List UInt8) : List UInt8 :=
  match skip bs with
  | [] => []
  | b :: rest => if is ']' b then rest else if is ',' b then skip rest else b :: rest

/-- Reads a value without parts of a certain kind. One that may be of two types is entered, even
where it is a list or an object. -/
def wantedScalar (n depth : Nat) (s : Scalar) (bs : List UInt8) : Reads Json :=
  let parts :=
    match bs with
    | [] => none
    | b :: rest =>
      if is '[' b then some (Json.list [], leaveList rest)
      else if is '\x7b' b then some (Json.object [], without '\x7d' rest)
      else none
  match s, parts with
  | .wholeOrText, some (j, rest) =>
    if depth = 0 then ahead .tooDeep bs else behind (.wrongType j.kind s.wanted) rest
  | s, some _ => refuse n s.wanted bs
  | s, none =>
    match scalar n bs with
    | .error stop => .error stop
    | .ok (j, rest) =>
      match s.complaint? j with
      | none => .ok (j, rest)
      | some problem =>
        match s, j with
        | .word _, .text _ => behind problem (without '\x7d' rest)
        | _, _ => behind problem rest

/-! ## Documents -/

/-- How many lists and objects may stand in each other. -/
def depthLimit : Nat := 127

/-- Reads the key of a member behind its opening quote, and its colon. -/
def key (n : Nat) (shape : Shape) (read : List (String × Json)) (bs : List UInt8) : Reads String :=
  match textFrom n [] bs with
  | .error stop => .error stop
  | .ok (k, rest) =>
    if shape.single k && read.any (·.1 = k) then behind (.memberRepeated k) (without '\x7d' rest)
    else
      match skip rest with
      | [] => ahead .endInObject []
      | b :: rest => if is ':' b then .ok (k, rest) else ahead .colonMissing (b :: rest)

/-- Ends an object. -/
def finish (shape : Shape) (read : List (String × Json)) (rest : List UInt8) :
    Reads (List (String × Json)) :=
  match shape.required.find? fun k => !read.any (·.1 = k) with
  | some k => behind (.memberMissing k) rest
  | none => .ok (read.reverse, rest)

mutual

/-- Reads a document with at most so many steps, and so many levels of nesting. -/
def valueFrom : Nat → Nat → Shape → List UInt8 → Reads Json
  | 0, _, _, bs => behind .endInValue bs
  | n + 1, depth, shape, bs =>
    match skip bs with
    | [] => ahead .endInValue []
    | b :: rest =>
      match shape with
      | .optional s =>
        if is 'n' b then word .null "ull".toList rest else valueFrom n depth s.given (b :: rest)
      | .scalar s => wantedScalar n depth s (b :: rest)
      | .any =>
        if is '[' b then listFrom n depth .any b rest
        else if is '\x7b' b then objectFrom n depth .any b rest
        else scalar n (b :: rest)
      | .list item =>
        if is '[' b then listFrom n depth item b rest else refuse n "a sequence" (b :: rest)
      | .table value =>
        if is '\x7b' b then objectFrom n depth (.table value) b rest
        else refuse n "a map" (b :: rest)
      | .record (.loose name) members =>
        if is '\x7b' b then objectFrom n depth (.record (.loose name) members) b rest
        else if is '[' b then
          match depth with
          | 0 => ahead .tooDeep (b :: rest)
          | _ + 1 => behind (.wrongType (Json.list []).kind name) (leaveList rest)
        else refuse n name (b :: rest)
      | .record (.strict name required) members =>
        if is '\x7b' b then objectFrom n depth (.record (.strict name required) members) b rest
        else refuse n name (b :: rest)

/-- Reads a list behind its bracket `b`. -/
def listFrom : Nat → Nat → Shape → UInt8 → List UInt8 → Reads Json
  | _, 0, _, b, rest => ahead .tooDeep (b :: rest)
  | 0, _ + 1, _, _, rest => behind .endInList rest
  | n + 1, depth + 1, item, _, rest =>
    (itemsFrom n depth item true [] rest).map fun (l, r) => (.list l, r)

/-- Reads an object behind its brace `b`. -/
def objectFrom : Nat → Nat → Shape → UInt8 → List UInt8 → Reads Json
  | _, 0, _, b, rest => ahead .tooDeep (b :: rest)
  | 0, _ + 1, _, _, rest => behind .endInObject rest
  | n + 1, depth + 1, shape, _, rest =>
    (membersFrom n depth shape true [] rest).map fun (m, r) => (.object m, r)

/-- Reads the items of a list behind its bracket or behind an item. -/
def itemsFrom : Nat → Nat → Shape → Bool → List Json → List UInt8 → Reads (List Json)
  | 0, _, _, _, _, bs => behind .endInList bs
  | n + 1, depth, item, first, read, bs =>
    match skip bs with
    | [] => ahead .endInList []
    | b :: rest =>
      if is ']' b then .ok (read.reverse, rest)
      else
        let next : Passes :=
          if first then .ok (b :: rest)
          else if is ',' b then
            match skip rest with
            | [] => .ok []
            | b :: more => if is ']' b then ahead .trailingComma (b :: more) else .ok (b :: more)
          else ahead .listNotContinued (b :: rest)
        match next with
        | .error stop => .error stop
        | .ok bs =>
          match valueFrom n depth item bs with
          | .error stop => .error stop
          | .ok (j, rest) => itemsFrom n depth item false (j :: read) rest

/-- Reads the members of an object behind its brace or behind a member. -/
def membersFrom :
    Nat → Nat → Shape → Bool → List (String × Json) → List UInt8 → Reads (List (String × Json))
  | 0, _, _, _, _, bs => behind .endInObject bs
  | n + 1, depth, shape, first, read, bs =>
    match skip bs with
    | [] => ahead .endInObject []
    | b :: rest =>
      if is '\x7d' b then finish shape read rest
      else
        let next : Passes :=
          if first then .ok (b :: rest)
          else if is ',' b then .ok (skip rest)
          else ahead .objectNotContinued (b :: rest)
        match next with
        | .error stop => .error stop
        | .ok [] => ahead .endInValue []
        | .ok (b :: more) =>
          if is '\x7d' b then ahead .trailingComma (b :: more)
          else if is '"' b then
            match key n shape read more with
            | .error stop => .error stop
            | .ok (k, rest) =>
              match shape.under? k with
              | some s =>
                match valueFrom n depth s rest with
                | .error stop => .error stop
                | .ok (j, rest) => membersFrom n depth shape false ((k, j) :: read) rest
              | none =>
                match passFrom n [] rest with
                | .error stop => .error stop
                | .ok rest => membersFrom n depth shape false read rest
          else ahead .keyNotText (b :: more)

end

/-- More steps than a text takes: each byte takes at most four. -/
def patience (bs : List UInt8) : Nat :=
  4 * bs.length + 4

end Reader

open Reader in
/-- Reads a whole text as one document of a shape. -/
def read (shape : Shape) (s : String) : Except Fault Json :=
  let bs := Utf8.bytes s
  match valueFrom (patience bs) depthLimit shape bs with
  | .error stop => .error (stop.fault bs)
  | .ok (j, rest) =>
    match skip rest with
    | [] => .ok j
    | rest => .error (Stop.fault bs ⟨.trailingText, rest, true⟩)

/-- Reads a whole text as one document. -/
def parse (s : String) : Except Fault Json :=
  read .any s

end Json

end PodTail
