import PodTail.Proofs.Api.Serving
import PodTail.Proofs.Api.Workload

/-!
# A selector asks for its labels

A selector travels to the server as text in the query of an address. Three things have to fit for it
to mean the same there, and `text_means_labels` puts them together.

* The query is encoded, so the server gets the text that was put in (`Request.param_selector`).
* Cut into terms, the text gives the entries back (`Readable.terms`), so no other labels have it.
* The server compares the terms with a manifest's members, and these are the labels that the pod is
  read with (`Server.carries_eq`).

`Readable` is what the text needs: an entry, since the empty text is a term that nothing meets, and
no separator in keys and values where it would be taken for one. An `=` in a value is allowed, since
a term is cut at its first.
-/

set_option autoImplicit false

namespace PodTail

namespace Selector

/-- Labels that can be read back from the text of their selector. -/
structure Readable (l : Labels) : Prop where
  asks : l.entries ≠ []
  parted : ∀ e ∈ l.entries, Parted e

variable {l l' : Labels}

theorem Readable.terms (readable : Readable l) : terms (text l) = l.entries.map some :=
  terms_text readable.asks readable.parted

/-- The text determines the labels, since its terms are their entries and the entries are in order.
    -/
theorem Readable.injective (readable : Readable l) (readable' : Readable l')
    (same : text l = text l') : l = l' := by
  have entries := congrArg Selector.terms same
  rw [readable.terms, readable'.terms] at entries
  exact Labels.eq_of_entries (List.map_inj_right (fun _ _ => Option.some.inj) |>.mp entries)

/-- Labels meet the terms of the text exactly if they cover the labels that it was made of. -/
theorem Readable.admits (readable : Readable l) (labels : Labels) :
    admits (text l) labels = labels.covers l := by
  rw [Selector.admits, readable.terms, List.all_map]
  rfl

end Selector

namespace Api

variable {l : Labels}

/-- What the server finds a manifest to carry is what the labels in it cover. -/
theorem Server.carries_eq (readable : Selector.Readable l) {j : Json}
    (once : ((Server.labelsOf j).map Prod.fst).Nodup) :
    Server.carries (Selector.text l) j = (Manifest.labels j).covers l := by
  rw [Server.carries, readable.terms, List.all_map]
  refine congrArg l.entries.all (funext fun e => ?_)
  rw [Server.get?_labels once]
  rfl

theorem Request.target_ok {r : Request} {u : Uri} (pieces : ∀ name ∈ r.names, Piece name)
    (sent : r.target = .ok u) : u = ⟨r.path, r.query?⟩ := by
  rcases target_cases pieces with target | ⟨cause, unsent⟩
  · exact Except.ok.inj (sent.symm.trans target)
  · simp [unsent] at sent

/-- **The text of a selector says what its labels say.** Cut at its commas, and each term at its
    first `=`, it gives the entries back in their order. No other readable labels have the same
    text. A pod's labels meet all terms exactly if they cover the labels. And the query of a request
    for the pods, which is sent as it is or not at all, brings the server the same text, so that the
    server finds the selector carried by exactly those manifests whose labels cover it, and these
    are the labels of the pod. -/
theorem text_means_labels {l : Labels} (readable : Selector.Readable l) :
    Selector.terms (Selector.text l) = l.entries.map some ∧
      (∀ l', Selector.Readable l' → Selector.text l' = Selector.text l → l' = l) ∧
      (∀ labels, Selector.admits (Selector.text l) labels = labels.covers l) ∧
      ∀ ns,
        let asked := Request.list ns (Selector.text l)
        let got := Server.param ⟨asked.path, asked.query?⟩ "labelSelector"
        (∀ u, Piece ns → asked.target = .ok u → Server.param u "labelSelector" = got) ∧
          got = Selector.text l ∧
          ∀ j, ((Server.labelsOf j).map Prod.fst).Nodup →
            Server.carries got j = (Manifest.labels j).covers l ∧
              ∀ p, Manifest.pod j = .ok p → Server.carries got j = p.labels.covers l := by
  refine ⟨readable.terms, ?_, readable.admits, ?_⟩
  · intro l' readable' same
    exact readable'.injective readable same
  · intro ns asked got
    have same : got = Selector.text l := Request.param_selector ns (Selector.text l)
    refine ⟨?_, same, ?_⟩
    · intro u own sent
      have pieces : ∀ name ∈ asked.names, Piece name := fun name mem =>
        List.mem_singleton.mp mem ▸ own
      rw [Request.target_ok pieces sent]
    · intro j once
      have carried := Server.carries_eq readable once
      rw [same]
      refine ⟨carried, fun p read => ?_⟩
      rw [Manifest.labels_of_read read, carried]

/-- A key without a character, and a value with an `=` in it. -/
def bareKey : Labels :=
  Labels.ofList [("env", "a=b"), ("", "é")]

/-- `text_means_labels` on `bareKey`. -/
theorem bareKey_is_asked :
    Selector.Readable bareKey ∧
      Selector.terms (Selector.text bareKey) = [some ("", "é"), some ("env", "a=b")] ∧
      ∀ j, ((Server.labelsOf j).map Prod.fst).Nodup →
        Server.carries (Selector.text bareKey) j = (Manifest.labels j).covers bareKey ∧
          ∀ p, Manifest.pod j = .ok p →
            Server.carries (Selector.text bareKey) j = p.labels.covers bareKey := by
  have readable : Selector.Readable bareKey := by
    refine ⟨by decide, ?_⟩
    intro e mem
    have entries : bareKey.entries = [("", "é"), ("env", "a=b")] := by decide
    obtain rfl | rfl : e = ("", "é") ∨ e = ("env", "a=b") := by simpa [entries] using mem
    all_goals exact ⟨by decide, by decide, by decide⟩
  obtain ⟨terms, _, _, asked⟩ := text_means_labels readable
  obtain ⟨_, got, carries⟩ := asked "ns"
  rw [got] at carries
  exact ⟨readable, terms, carries⟩

end Api

end PodTail
