import PodTail.Proofs.Text.Cut
import PodTail.Web.Header

/-!
# Blanks around a value

`Header.trim` removes the blanks around a header's value. Its specification is the relation `Trimmed
bs t`: `t` has no blank at either end, and `bs` is `t` with blanks around it. `trim_eq_iff` says
that this determines `t`, and that `trim` computes it. A value of blanks alone is trimmed to nothing
(`trimmed_nil_iff`).
-/

set_option autoImplicit false

namespace PodTail

namespace Header

/-- Bytes with no blank at either end. -/
def Unpadded (t : List UInt8) : Prop :=
  ∀ b, t.head? = some b ∨ t.getLast? = some b → isBlank b = false

/-- `t` is what is left of some bytes without the blanks around it. -/
structure Trimmed (bs t : List UInt8) : Prop where
  unpadded : Unpadded t
  padded : ∃ front back, bs = front ++ t ++ back ∧ (∀ b ∈ front, isBlank b = true) ∧
    ∀ b ∈ back, isBlank b = true

variable {bs t : List UInt8}

theorem head_dropWhile {b : UInt8} (h : (bs.dropWhile isBlank).head? = some b) :
    isBlank b = false := by
  have first := List.head?_dropWhile_not isBlank bs
  rwa [h] at first

theorem dropWhile_of_head (h : ∀ b, bs.head? = some b → isBlank b = false) :
    bs.dropWhile isBlank = bs := by
  cases bs with
  | nil => rfl
  | cons b bs => exact List.dropWhile_cons_of_neg (by simp [h b rfl])

/-- What `trim` computes is `Trimmed`. -/
theorem trimmed_trim (bs : List UInt8) : Trimmed bs (trim bs) := by
  -- `trim` drops from the front, and then from the end of what is left
  let front := bs.takeWhile isBlank
  let rest := bs.dropWhile isBlank
  let back := (rest.reverse.takeWhile isBlank).reverse
  have whole : bs = front ++ rest := List.takeWhile_append_dropWhile.symm
  have ends : rest = trim bs ++ back := by
    rw [trim, ← List.reverse_append, List.takeWhile_append_dropWhile, List.reverse_reverse]
  refine ⟨fun b at' => ?_, front, back, ?_, fun b => List.mem_takeWhile_imp, fun b mem => ?_⟩
  · rcases at' with first | last
    · have first' : rest.head? = some b := by rw [ends, List.head?_append, first, Option.some_or]
      exact head_dropWhile first'
    · rw [trim, List.getLast?_reverse] at last
      exact head_dropWhile last
  · rw [List.append_assoc, ← ends, ← whole]
  · exact List.mem_takeWhile_imp (List.mem_reverse.mp mem)

/-- What is `Trimmed` is computed by `trim`: the blanks in front and behind are dropped, and the
    ends stop it. -/
theorem trim_of_trimmed (h : Trimmed bs t) : trim bs = t := by
  obtain ⟨unpadded, front, back, rfl, before, behind⟩ := h
  rw [trim, List.append_assoc, List.dropWhile_append_of_pos before]
  cases t with
  | nil => rw [List.nil_append, List.dropWhile_eq_nil_iff.mpr behind]; rfl
  | cons b t =>
    have first : (b :: t ++ back).dropWhile isBlank = b :: t ++ back :=
      dropWhile_of_head fun c at' => unpadded c (Or.inl at')
    have last : (b :: t).reverse.dropWhile isBlank = (b :: t).reverse :=
      dropWhile_of_head fun c at' => unpadded c (Or.inr (List.head?_reverse ▸ at'))
    have behind' : ∀ c ∈ back.reverse, isBlank c = true := fun c mem =>
      behind c (List.mem_reverse.mp mem)
    rw [first, List.reverse_append, List.dropWhile_append_of_pos behind', last, List.reverse_reverse]

/-- `Trimmed` specifies `trim`. -/
theorem trim_eq_iff : trim bs = t ↔ Trimmed bs t :=
  ⟨fun same => same ▸ trimmed_trim bs, trim_of_trimmed⟩

/-- Blanks alone are nothing with blanks around it. -/
theorem trimmed_nil_iff : Trimmed bs [] ↔ ∀ b ∈ bs, isBlank b = true := by
  constructor
  · rintro ⟨_, front, back, rfl, before, behind⟩ b mem
    rw [List.append_nil] at mem
    exact (List.mem_append.mp mem).elim (before b) (behind b)
  · exact fun blank => ⟨by simp [Unpadded], bs, [], by simp, blank, by simp⟩

end Header

end PodTail
