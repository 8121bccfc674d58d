import PodTail.Number.Shortest
import PodTail.Text.Quoted

/-!
# JSON values

A document as data. A number is a whole one, or the floating point number nearest to it. The members
of an object are a list of pairs in the order in which they are written; where several have the same
key, the last counts.
-/

set_option autoImplicit false

namespace PodTail

/-- A JSON document. -/
inductive Json where
  | null
  | bool (b : Bool)
  | int (n : Int)
  | float (x : Binary64)
  | text (s : String)
  | list (items : List Json)
  | object (members : List (String × Json))

namespace Json

instance : Inhabited Json := ⟨.null⟩

/-- The last of some members under a key. -/
def lastUnder (key : String) : List (String × Json) → Option Json
  | [] => none
  | (k, j) :: rest =>
    match lastUnder key rest with
    | some found => some found
    | none => if k = key then some j else none

/-- The member of an object under a key; nothing else has members. -/
def member? (key : String) : Json → Option Json
  | .object members => lastUnder key members
  | _ => none

/-- The member under a key, where it is there and not null. -/
def given? (key : String) (j : Json) : Option Json :=
  match j.member? key with
  | some .null => none
  | found => found

/-- The text of a text. -/
def text? : Json → Option String
  | .text s => some s
  | _ => none

/-- The value of a whole number. -/
def int? : Json → Option Int
  | .int n => some n
  | _ => none

/-- The items of a list; nothing else has items. -/
def items : Json → List Json
  | .list l => l
  | _ => []

/-- The members of an object; nothing else has members. -/
def members : Json → List (String × Json)
  | .object m => m
  | _ => []

/-- Sets a member of an object, in the place of the key order. -/
def insertMember (key : String) (value : Json) : List (String × Json) → List (String × Json)
  | [] => [(key, value)]
  | e :: rest =>
    if key < e.1 then (key, value) :: e :: rest
    else if key = e.1 then (key, value) :: rest
    else e :: insertMember key value rest

/-- What a document is, in the words of a complaint about it. -/
def kind : Json → String
  | .null => "null"
  | .bool true => "boolean `true`"
  | .bool false => "boolean `false`"
  | .int n => "integer `" ++ toString n ++ "`"
  | .float x => "floating point `" ++ x.text ++ "`"
  | .text s => "string " ++ Quoted.text s
  | .list _ => "sequence"
  | .object _ => "map"

mutual

/-- The document with the members of its objects in key order, of equal keys the last. -/
def sorted : Json → Json
  | .list l => .list (sortedItems l)
  | .object m => .object (sortedMembers m)
  | j => j

/-- Items, each with its members in key order. -/
def sortedItems : List Json → List Json
  | [] => []
  | j :: rest => j.sorted :: sortedItems rest

/-- Members in key order; one that stands later wins. -/
def sortedMembers : List (String × Json) → List (String × Json)
  | [] => []
  | (k, j) :: rest =>
    let others := sortedMembers rest
    if (others.lookup k).isSome then others else insertMember k j.sorted others

end

end Json

end PodTail
