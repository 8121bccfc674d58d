import PodTail.Labels
import PodTail.Text.Cut

/-!
# Selectors

`Selector.text` writes labels as the text that a request carries: `key=value` for each entry, in
the order of the keys, joined by commas and without any escaping. `Selector.terms` reads such a text
back by cutting it at its commas and each term at its first `=`. A term without `=` names no label,
and no pod meets it (`admits`).

Since nothing is escaped, `terms` gives the entries back only if no key contains a comma or an `=`
and no value contains a comma.
-/

set_option autoImplicit false

namespace PodTail

namespace Selector

/-- The text of one entry. -/
def term (e : String × String) : String :=
  e.1 ++ "=" ++ e.2

/-- The text of a selector. -/
def text (l : Labels) : String :=
  String.intercalate "," (l.entries.map term)

/-- The labels every pod of a workload carries. -/
def ofCapp (key name : String) : Labels :=
  Labels.single key name

/-! ## Reading -/

/-- The terms of a selector's text, each with the label it asks for. -/
def terms (s : String) : List (Option (String × String)) :=
  (Cut.every ',' s.toList).map fun t =>
    (Cut.first? '=' t).map fun p => (String.ofList p.1, String.ofList p.2)

/-- Whether labels meet every term of a selector's text. -/
def admits (s : String) (l : Labels) : Bool :=
  (terms s).all fun
    | some (k, v) => l.get? k == some v
    | none => false

end Selector

end PodTail
