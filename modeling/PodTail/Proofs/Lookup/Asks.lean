import PodTail.Proofs.Lookup.Transcript

/-!
# What a look-up may ask

Two clusters that answer alike have the same outcome for every look-up (`run_alike`, where `Alike`
is a simulation between their states). It would be too much to ask that they answer alike on all
questions: for some names a server and a memory do not. So `Alike` is restricted to the questions
that `may` be asked, and it has to be known that a look-up asks no others.

That is what `Asks replies may finds d` says: as long as the answers satisfy `replies`, the look-up
`d` asks only what it `may`, and what it finds satisfies `finds`. It is proved along the structure
of the look-up (`Asks.bind`), and for a cluster whose answers satisfy `replies` it bounds the
transcript of every run (`Asks.transcript`).
-/

set_option autoImplicit false

namespace PodTail

namespace Lookup

variable {α β σ τ : Type}

/-! ## Questions that may be asked -/

section

variable {replies : Exchange → Prop} {may : Question → Prop} {finds : α → Prop} {finds' : β → Prop}

/-- As long as the answers satisfy `replies`, all questions satisfy `may` and what is found
    satisfies `finds`. -/
def Asks (replies : Exchange → Prop) (may : Question → Prop) (finds : α → Prop) : Lookup α → Prop
  | .found a => finds a
  | .refused _ => True
  | .list ns selector next => may (.list ns selector) ∧
      ∀ answer, replies (.listed ns selector answer) → (next answer).Asks replies may finds
  | .get ns pod next => may (.get ns pod) ∧
      ∀ answer, replies (.got ns pod answer) → (next answer).Asks replies may finds
  | .log ns pod container tail next => may (.log ns pod container tail) ∧
      ∀ answer, replies (.opened ns pod container tail answer) → (next answer).Asks replies may finds
  | .note _ next => next.Asks replies may finds

/-- The rest of a look-up may rely on what the first part `finds`. -/
theorem Asks.bind {d : Lookup α} {f : α → Lookup β} (h : d.Asks replies may finds)
    (more : ∀ a, finds a → (f a).Asks replies may finds') : (d.bind f).Asks replies may finds' := by
  induction d with
  | found a => exact more a h
  | refused why => trivial
  | list _ _ _ ih | get _ _ _ ih | log _ _ _ _ _ ih =>
    exact ⟨h.1, fun answer said => ih answer (h.2 answer said)⟩
  | note _ _ ih => exact ih h

/-- The answers of a cluster satisfy `replies` in all states of the invariant `inv`, which it keeps.
    -/
structure Answers (c : Cluster σ) (replies : Exchange → Prop) (inv : σ → Prop) : Prop where
  list : ∀ s, inv s → ∀ ns selector, replies (.listed ns selector (c.list s ns selector).1) ∧
    inv (c.list s ns selector).2.2
  get : ∀ s, inv s → ∀ ns pod, replies (.got ns pod (c.get s ns pod).1) ∧ inv (c.get s ns pod).2
  log : ∀ s, inv s → ∀ ns pod container tail,
    replies (.opened ns pod container tail (c.log s ns pod container tail).1) ∧
      inv (c.log s ns pod container tail).2

/-- On such a cluster every call of the transcript is one that may be made. -/
theorem Asks.transcript {c : Cluster σ} {inv : σ → Prop} (answers : Answers c replies inv)
    {d : Lookup α} (h : d.Asks replies may finds) {s : σ} (good : inv s) :
    ∀ call ∈ d.transcript c s, may call.question := by
  induction d generalizing s with
  | found | refused => exact fun call mem => absurd mem List.not_mem_nil
  | list ns selector next ih =>
    obtain ⟨said, good⟩ := answers.list s good ns selector
    rw [transcript_list]
    exact List.forall_mem_cons.mpr ⟨h.1, ih _ (h.2 _ said) good⟩
  | get ns pod next ih =>
    obtain ⟨said, good⟩ := answers.get s good ns pod
    rw [transcript_get]
    exact List.forall_mem_cons.mpr ⟨h.1, ih _ (h.2 _ said) good⟩
  | log ns pod container tail next ih =>
    obtain ⟨said, good⟩ := answers.log s good ns pod container tail
    rw [transcript_log]
    exact List.forall_mem_cons.mpr ⟨h.1, ih _ (h.2 _ said) good⟩
  | note e next ih => exact ih h good

end

/-! ## Clusters that answer alike -/

/-- A simulation: in states related by `R`, questions that `may` be asked have the same answers, and
    lead to states related by `R`. -/
structure Alike (c : Cluster σ) (c' : Cluster τ) (may : Question → Prop) (R : σ → τ → Prop) :
    Prop where
  list : ∀ s s', R s s' → ∀ ns selector, may (.list ns selector) →
    (c'.list s' ns selector).1 = (c.list s ns selector).1 ∧
      R (c.list s ns selector).2.2 (c'.list s' ns selector).2.2
  get : ∀ s s', R s s' → ∀ ns pod, may (.get ns pod) →
    (c'.get s' ns pod).1 = (c.get s ns pod).1 ∧ R (c.get s ns pod).2 (c'.get s' ns pod).2
  log : ∀ s s', R s s' → ∀ ns pod container tail, may (.log ns pod container tail) →
    (c'.log s' ns pod container tail).1 = (c.log s ns pod container tail).1 ∧
      R (c.log s ns pod container tail).2 (c'.log s' ns pod container tail).2

/-- A look-up whose questions all `may` be asked has the same outcome on both clusters. -/
theorem run_alike {c : Cluster σ} {c' : Cluster τ} {may : Question → Prop} {R : σ → τ → Prop}
    (alike : Alike c c' may R) (d : Lookup α) {s : σ} {s' : τ} (related : R s s')
    (asks : ∀ call ∈ d.transcript c s, may call.question) :
    (d.run c' s').1 = (d.run c s).1 ∧ R (d.run c s).2.2 (d.run c' s').2.2 := by
  induction d generalizing s s' with
  | found | refused => exact ⟨rfl, related⟩
  | list ns selector next ih =>
    rw [transcript_list] at asks
    obtain ⟨first, others⟩ := List.forall_mem_cons.mp asks
    -- the same answer from related states, so both go on with the same look-up
    obtain ⟨same, related⟩ := alike.list s s' related ns selector first
    simp only [run, same]
    exact ih _ related others
  | get ns pod next ih =>
    rw [transcript_get] at asks
    obtain ⟨first, others⟩ := List.forall_mem_cons.mp asks
    obtain ⟨same, related⟩ := alike.get s s' related ns pod first
    simp only [run, same]
    exact ih _ related others
  | log ns pod container tail next ih =>
    rw [transcript_log] at asks
    obtain ⟨first, others⟩ := List.forall_mem_cons.mp asks
    obtain ⟨same, related⟩ := alike.log s s' related ns pod container tail first
    simp only [run, same]
    exact ih _ related others
  | note e next ih => exact ih related asks

/-! ## A container that was named -/

/-- A target that names pod and container is opened by one `get` and one `log`, if the pod has the
    container. -/
theorem run_openTarget_named {σ : Type} (c : Cluster σ) (s : σ) (label : String) (tail : Option Int)
    {ns pod container : String} {p : Pod} (got : (c.get s ns pod).1 = .ok p)
    (has : container ∈ p.containers) :
    ((openTarget label tail ⟨ns, .pod, pod, none, some container⟩).run c s).1 =
      (c.log (c.get s ns pod).2 ns pod container tail).1.mapError .openFailed := by
  show ((openLog tail ns ⟨pod, container⟩).run c s).1 = _
  simp only [openLog, run, got, has, if_true]
  cases (c.log (c.get s ns pod).2 ns pod container tail).1 with
  | error cause => rfl
  | ok source => rfl

end Lookup

end PodTail
