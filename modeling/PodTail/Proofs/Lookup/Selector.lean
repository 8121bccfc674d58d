import PodTail.Proofs.Text.Cut
import PodTail.Selector

/-!
# Selectors are read as they were written

`Selector.text` writes a selector with commas between its entries, and `Selector.terms` is how a
server reads such a text. `terms_text` says that they fit: the terms of the text are the entries, in
their order. It needs two conditions. The selector has an entry, since the empty text is still read
as one term. And the entries are `Parted`: no comma in them, and no `=` in the key. `text` escapes
neither, so an entry that is not `Parted` is read as something else.
-/

set_option autoImplicit false

namespace PodTail

namespace Selector

/-- The separators do not occur in the entry where they would be taken for separators. -/
structure Parted (e : String × String) : Prop where
  key : ',' ∉ e.1.toList
  equals : '=' ∉ e.1.toList
  value : ',' ∉ e.2.toList

theorem toList_term (e : String × String) : (term e).toList = e.1.toList ++ '=' :: e.2.toList := by
  simp [term]

theorem first_term {e : String × String} (parted : Parted e) :
    (Cut.first? '=' (term e).toList).map (fun p => (String.ofList p.1, String.ofList p.2)) =
      some e := by
  rw [toList_term, Cut.first_append parted.equals, Option.map_some, String.ofList_toList,
    String.ofList_toList]

theorem comma_term {e : String × String} (parted : Parted e) : ',' ∉ (term e).toList := by
  rw [toList_term]
  simp [parted.key, parted.value]

/-- The terms of a selector's text are its entries. -/
theorem terms_text {l : Labels} (asks : l.entries ≠ []) (parted : ∀ e ∈ l.entries, Parted e) :
    terms (text l) = l.entries.map some := by
  have written : (text l).toList = [','].intercalate ((l.entries.map term).map String.toList) :=
    String.toList_intercalate
  have free : ∀ piece ∈ (l.entries.map term).map String.toList, ',' ∉ piece := by
    simp only [List.map_map, List.forall_mem_map]
    exact fun e mem => comma_term (parted e mem)
  rw [terms, written, Cut.every_intercalate (by simpa using asks) free, List.map_map, List.map_map]
  exact List.map_congr_left fun e mem => first_term (parted e mem)

end Selector

end PodTail
