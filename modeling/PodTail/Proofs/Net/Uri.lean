import PodTail.Net.Uri
import PodTail.Proofs.Text.Cut
import PodTail.Proofs.Text.Utf8

/-!
# Addresses that begin with their path

`Uri.read` on an address that begins with a slash. If the path is `Whole`, which means that it holds
no `?` and no `#`, and the query holds no `#`, the address is read as that path and that query
(`target_path`, `target_query`), or refused for its length or its characters, and for nothing else
(`read_slash`). A path that is put together from pieces without a slash is taken apart into these
pieces (`segments_cons`, `segments_last`).
-/

set_option autoImplicit false

namespace PodTail

namespace Uri

/-! ## Characters that part addresses -/

/-- A separator that is ASCII is not among the bytes of a text without it. -/
theorem not_mem_bytes {s : String} {c : Char} (ascii : c.toNat < 0x80) (h : c ∉ s.toList) :
    c.toUInt8 ∉ Utf8.bytes s := by
  intro mem
  have value : c.toUInt8.toNat = c.toNat := by
    show (UInt8.ofNat c.toNat).toNat = c.toNat
    exact Utf8.toNat_ofNat (by omega)
  have found := Utf8.ofNat_mem_of_mem_bytes mem (value ▸ ascii)
  rw [value, Char.ofNat_toNat] at found
  exact h found

/-- A path that no separator cuts off. -/
structure Whole (path : String) : Prop where
  query : '?' ∉ path.toList
  fragment : '#' ∉ path.toList

/-! ## Reading -/

/-- A path alone. -/
theorem target_path {path : String} (whole : Whole path) (starts : Utf8.bytes path ≠ []) :
    target (Utf8.bytes path) =
      if (Utf8.bytes path).all inPath then .ok ⟨path, none⟩ else .error .badCharacter := by
  have fragment := Cut.before_of_not_mem (not_mem_bytes (by decide) whole.fragment)
  have query := Cut.first_of_not_mem (not_mem_bytes (by decide) whole.query)
  simp [target, fragment, query, starts]

/-- A path with a query. -/
theorem target_query {path query : String} (whole : Whole path) (starts : Utf8.bytes path ≠ [])
    (fragment : '#' ∉ query.toList) :
    target (Utf8.bytes (path ++ "?" ++ query)) =
      if (Utf8.bytes path).all inPath && (Utf8.bytes query).all inQuery then
        .ok ⟨path, some query⟩
      else .error .badCharacter := by
  -- the first question mark is the one that was put there, since the path has none
  have parted : Utf8.bytes (path ++ "?" ++ query) =
      Utf8.bytes path ++ '?'.toUInt8 :: Utf8.bytes query := by
    simp [show Utf8.bytes "?" = ['?'.toUInt8] from rfl]
  have kept : '#' ∉ (path ++ "?" ++ query).toList := by
    simp [whole.fragment, fragment]
  have before := Cut.before_of_not_mem (not_mem_bytes (by decide) kept)
  have first := Cut.first_append (not_mem_bytes (by decide) whole.query) (Utf8.bytes query)
  rw [parted] at before ⊢
  simp only [target, before, first]
  simp [starts]

theorem read_slash (s : String) {rest : List UInt8} (slash : Utf8.bytes s = '/'.toUInt8 :: rest) :
    read s = if lengthLimit < (Utf8.bytes s).length then .error .tooLong
      else target (Utf8.bytes s) := by
  simp only [read, slash]
  rfl

/-! ## Pieces of a path -/

theorem segments_cons {piece rest : String} (query : Option String) (h : '/' ∉ piece.toList) :
    segments ⟨piece ++ "/" ++ rest, query⟩ = piece :: segments ⟨rest, query⟩ := by
  have parted : (piece ++ "/" ++ rest).toList = piece.toList ++ '/' :: rest.toList := by simp
  rw [segments, parted, Cut.every_append h, List.map_cons, String.ofList_toList]
  rfl

theorem segments_last {piece : String} (query : Option String) (h : '/' ∉ piece.toList) :
    segments ⟨piece, query⟩ = [piece] := by
  rw [segments, Cut.every_of_not_mem h, List.map_singleton, String.ofList_toList]

end Uri

end PodTail
