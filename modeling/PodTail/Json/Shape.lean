import PodTail.Json.Fault
import PodTail.Json.Value
import PodTail.Time.Timestamp

/-!
# Shapes

A `Shape` is what a reader wants of a document, and `Shape.fits` decides whether a document is so.
`Json.read` uses the same functions (`under?`, `single`, `required`, `Scalar.complaint?`) while it
reads, so it can skip what nobody asks for and stop at the first thing that is wrong.

An object with known members is read in one of two manners. `Manner.loose` takes the last of several
members with the same key and passes over the unknown ones. `Manner.strict` refuses a known member
that is repeated and a required one that is missing, and reads the unknown ones like any document.
-/

set_option autoImplicit false

namespace PodTail

namespace Json

/-! ## Values without parts -/

/-- A value without parts that somebody wants. -/
inductive Scalar where
  | text
  | flag
  /-- A whole number between two bounds, by the name of its type. -/
  | whole (name : String) (least greatest : Int)
  | instant
  /-- A whole number of 32 bits, or a text. -/
  | wholeOrText
  /-- A text that says one thing only. -/
  | word (only : String)
  deriving DecidableEq, Repr

namespace Scalar

/-- What is wanted, in the words of a complaint. -/
def wanted : Scalar → String
  | .text => "a string"
  | .flag => "a boolean"
  | .whole name _ _ => name
  | .instant => "an RFC 3339 formatted date and time string"
  | .wholeOrText => "IntOrString"
  | .word _ => "a string"

/-- What is wrong with a document that should be such a value, if anything is. -/
def complaint? : Scalar → Json → Option Problem
  | .text, .text _ => none
  | .flag, .bool _ => none
  | .whole name least greatest, .int n =>
    if least ≤ n ∧ n ≤ greatest then none else some (.wrongValue (Json.int n).kind name)
  | .instant, .text s =>
    match Timestamp.read s with
    | .ok _ => none
    | .error fault => some (.refused fault.message)
  | .wholeOrText, .text _ => none
  | .wholeOrText, .int n =>
    if -2147483648 ≤ n ∧ n ≤ 2147483647 then none
    else some (.wrongValue (Json.int n).kind "a 32-bit integer")
  | .word only, .text s =>
    if s = only then none else some (.wrongValue (Json.text s).kind only)
  | s, j => some (.wrongType j.kind s.wanted)

end Scalar

/-! ## Shapes -/

/-- How an object of known members is read; its name is what a complaint calls it. -/
inductive Manner where
  | loose (name : String)
  | strict (name : String) (required : List String)
  deriving DecidableEq, Repr

/-- What a complaint calls an object. -/
def Manner.name : Manner → String
  | .loose name => name
  | .strict name _ => name

/-- What a document has to be. -/
inductive Shape where
  /-- Any document. -/
  | any
  | scalar (s : Scalar)
  /-- Null, or what the shape says. -/
  | optional (shape : Shape)
  | list (item : Shape)
  /-- An object of any keys, with values of one shape. -/
  | table (value : Shape)
  /-- An object of known members. -/
  | record (manner : Manner) (members : List (String × Shape))

namespace Shape

/-- A text. -/
def text : Shape := .scalar .text

/-- A truth value. -/
def flag : Shape := .scalar .flag

/-- A whole number of 32 bits. -/
def int32 : Shape := .scalar (.whole "i32" (-2147483648) 2147483647)

/-- A whole number of 64 bits. -/
def int64 : Shape := .scalar (.whole "i64" (-9223372036854775808) 9223372036854775807)

/-- An instant. -/
def instant : Shape := .scalar .instant

/-- A whole number of 32 bits, or a text. -/
def int32OrText : Shape := .scalar .wholeOrText

/-- Texts. -/
def texts : Shape := .list text

/-- Texts under any keys. -/
def textTable : Shape := .table text

/-- An object each of whose members may be missing or null. -/
def loose (name : String) (members : List (String × Shape)) : Shape :=
  .record (.loose name) (members.map fun (k, s) => (k, .optional s))

/-- The shape of an item, where a list is wanted. -/
def item? : Shape → Option Shape
  | .any => some .any
  | .optional s => s.item?
  | .list item => some item
  | _ => none

/-- The shape of the member under a key, where somebody asks for one. -/
def known? : Shape → String → Option Shape
  | .record _ members, key => members.lookup key
  | _, _ => none

/-- The shape that the member under a key is read in; one that is passed over has none. -/
def under? : Shape → String → Option Shape
  | .any, _ => some .any
  | .table value, _ => some value
  | .record (.loose _) members, key => members.lookup key
  | .record (.strict _ _) members, key => some ((members.lookup key).getD .any)
  | _, _ => none

/-- Whether a member may stand only once. -/
def single (shape : Shape) (key : String) : Bool :=
  match shape with
  | .record (.strict _ _) members => (members.lookup key).isSome
  | _ => false

/-- The members that must be there. -/
def required : Shape → List String
  | .record (.strict _ required) _ => required
  | _ => []

/-- Whether an object is wanted. -/
def isObject : Shape → Bool
  | .any => true
  | .optional s => s.isObject
  | .table _ => true
  | .record _ _ => true
  | _ => false

/-- The shape without the leave to be null. -/
def given : Shape → Shape
  | .optional s => s.given
  | s => s

/-- Whether an object has the members that must be there, and once those that must not stand
twice. -/
def complete (shape : Shape) (members : List (String × Json)) : Bool :=
  (shape.required.all fun key => members.any (·.1 = key))
    && members.all fun (key, _) =>
      !shape.single key || (members.filter (·.1 = key)).length = 1

/-- Whether a document without parts fits. -/
def fitsScalar (j : Json) : Shape → Bool
  | .any => true
  | .scalar s => (s.complaint? j).isNone
  | .optional s => (match j with | .null => true | _ => false) || s.fitsScalar j
  | _ => false

mutual

/-- Whether a document fits, with at most so many lists and objects in each other. -/
def fits : Json → Nat → Shape → Bool
  | .list l, depth, shape =>
    match depth, shape.item? with
    | depth + 1, some item => fitsItems l depth item
    | _, _ => false
  | .object m, depth, shape =>
    match depth with
    | depth + 1 =>
      shape.isObject && shape.given.complete m && fitsMembers m depth shape.given
    | 0 => false
  | j, _, shape => shape.fitsScalar j

/-- Whether items fit. -/
def fitsItems : List Json → Nat → Shape → Bool
  | [], _, _ => true
  | j :: rest, depth, item => fits j depth item && fitsItems rest depth item

/-- Whether members fit. -/
def fitsMembers : List (String × Json) → Nat → Shape → Bool
  | [], _, _ => true
  | (k, j) :: rest, depth, shape =>
    (match shape.under? k with
      | some s => fits j depth s
      | none => true) && fitsMembers rest depth shape

end

end Shape

end Json

end PodTail
