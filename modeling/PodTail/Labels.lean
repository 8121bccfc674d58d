/-!
# Labels

Labels are a finite map from keys to values, kept as a list of entries with strictly increasing
keys, so that two label maps are equal exactly when they hold the same entries. The order of keys
is that of their code points, which is also the order of their UTF-8 bytes.

`Labels.put` keeps the order, `Labels.get?` reads an entry, and `Labels.covers` says that a pod's
labels hold every entry of a selector.
-/

set_option autoImplicit false

namespace PodTail

/-- Entries with strictly increasing keys. -/
structure Labels where
  entries : List (String × String)
  ordered : entries.Pairwise (fun a b => a.1 < b.1) := by exact List.Pairwise.nil

namespace Labels

/-- Puts an entry in its place, over an older one of the same key. -/
def place (key value : String) : List (String × String) → List (String × String)
  | [] => [(key, value)]
  | e :: rest =>
    if key < e.1 then (key, value) :: e :: rest
    else if key = e.1 then (key, value) :: rest
    else e :: place key value rest

/-- Placing adds no key but the one placed. -/
theorem mem_place {key value : String} {e : String × String} :
    ∀ {l : List (String × String)}, e ∈ place key value l → e = (key, value) ∨ e ∈ l
  | [], h => by
    simp only [place, List.mem_singleton] at h
    exact Or.inl h
  | x :: rest, h => by
    unfold place at h
    split at h
    · rcases List.mem_cons.1 h with h | h
      · exact Or.inl h
      · exact Or.inr h
    · split at h
      · rcases List.mem_cons.1 h with h | h
        · exact Or.inl h
        · exact Or.inr (List.mem_cons_of_mem _ h)
      · rcases List.mem_cons.1 h with h | h
        · exact Or.inr (h ▸ List.mem_cons_self)
        · rcases mem_place h with h | h
          · exact Or.inl h
          · exact Or.inr (List.mem_cons_of_mem _ h)

/-- Two texts neither of which comes first are the same. -/
theorem lt_of_not_lt {a b : String} (h : ¬ a < b) (hne : a ≠ b) : b < a := by
  rcases Decidable.em (b < a) with h' | h'
  · exact h'
  · exact absurd (String.le_antisymm (String.not_lt.1 h') (String.not_lt.1 h)) hne

/-- Placing keeps the keys increasing. -/
theorem pairwise_place (key value : String) :
    ∀ {l : List (String × String)}, l.Pairwise (fun a b => a.1 < b.1) →
      (place key value l).Pairwise (fun a b => a.1 < b.1)
  | [], _ => by simp [place]
  | e :: rest, h => by
    obtain ⟨hhead, htail⟩ := List.pairwise_cons.1 h
    unfold place
    split
    · rename_i hlt
      refine List.pairwise_cons.2 ⟨fun x hx => ?_, h⟩
      rcases List.mem_cons.1 hx with rfl | hx
      · exact hlt
      · exact String.lt_trans hlt (hhead x hx)
    · split
      · rename_i heq
        exact List.pairwise_cons.2 ⟨fun x hx => heq ▸ hhead x hx, htail⟩
      · rename_i hnlt hne
        refine List.pairwise_cons.2 ⟨fun x hx => ?_, pairwise_place key value htail⟩
        rcases mem_place hx with rfl | hx
        · exact lt_of_not_lt hnlt hne
        · exact hhead x hx

/-- No labels. -/
def empty : Labels := { entries := [] }

/-- Sets a label. -/
def put (l : Labels) (key value : String) : Labels :=
  ⟨place key value l.entries, pairwise_place key value l.ordered⟩

/-- The labels of a list of settings, of which a later one wins. -/
def ofList (settings : List (String × String)) : Labels :=
  settings.foldl (fun l e => l.put e.1 e.2) empty

/-- One label. -/
def single (key value : String) : Labels := empty.put key value

/-- The value under a key. -/
def get? (l : Labels) (key : String) : Option String :=
  l.entries.lookup key

/-- Whether `l` holds every entry of `selector`. -/
def covers (l selector : Labels) : Bool :=
  selector.entries.all fun e => l.get? e.1 == some e.2

end Labels

instance : DecidableEq Labels := fun a b =>
  if h : a.entries = b.entries then
    isTrue (by cases a; cases b; cases h; rfl)
  else isFalse (fun e => h (congrArg Labels.entries e))

instance : Repr Labels := ⟨fun l n => reprPrec l.entries n⟩

instance : Inhabited Labels := ⟨Labels.empty⟩

end PodTail
