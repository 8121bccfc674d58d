import PodTail.Lookup

/-!
# What a look-up asks

A `Lookup` is run against a cluster, and the answers decide what it asks next. To state what it
asks, the questions have to be observed. `Cluster.recorded` is the same cluster with a list at its
side, in which each question is written down with its answer, and `transcript` is that list behind a
run. The run itself is the same with and without the list (`run_recorded`).

Proofs do not go by `transcript` but by the relation `Goes d calls outcome`: the look-up `d` asks
these `calls`, is answered as they say, and comes to this outcome. The cluster does not occur in it,
so an answer may be anything, whatever was answered before. `goes_run` connects the two, and
`Goes.of_bind` takes apart a look-up that is made of two.
-/

set_option autoImplicit false

namespace PodTail

/-- A question that a cluster was asked, and its answer. -/
inductive Exchange where
  | listed (ns : String) (selector : Labels) (answer : Except ClusterFailure (List Pod))
  | got (ns pod : String) (answer : Except ClusterFailure Pod)
  | opened (ns pod container : String) (tail : Option Int)
      (answer : Except ClusterFailure OpenLog)

def Exchange.question : Exchange → Lookup.Question
  | .listed ns selector _ => .list ns selector
  | .got ns pod _ => .get ns pod
  | .opened ns pod container tail _ => .log ns pod container tail

/-- The cluster, with a list of all it has been asked. -/
def Cluster.recorded {σ : Type} (c : Cluster σ) : Cluster (σ × List Exchange) where
  list := fun (s, calls) ns selector =>
    let (answer, events, s) := c.list s ns selector
    (answer, events, s, calls ++ [.listed ns selector answer])
  get := fun (s, calls) ns pod =>
    let (answer, s) := c.get s ns pod
    (answer, s, calls ++ [.got ns pod answer])
  log := fun (s, calls) ns pod container tail =>
    let (answer, s) := c.log s ns pod container tail
    (answer, s, calls ++ [.opened ns pod container tail answer])
  delay := fun (s, _) => c.delay s
  release := fun (s, calls) opened => (c.release s opened, calls)

section

variable {σ : Type} (c : Cluster σ) (s : σ) (calls : List Exchange) (ns pod : String)

@[simp]
theorem Cluster.recorded_list (selector : Labels) :
    c.recorded.list (s, calls) ns selector =
      ((c.list s ns selector).1, (c.list s ns selector).2.1, (c.list s ns selector).2.2,
        calls ++ [.listed ns selector (c.list s ns selector).1]) :=
  rfl

@[simp]
theorem Cluster.recorded_get :
    c.recorded.get (s, calls) ns pod =
      ((c.get s ns pod).1, (c.get s ns pod).2, calls ++ [.got ns pod (c.get s ns pod).1]) :=
  rfl

@[simp]
theorem Cluster.recorded_log (container : String) (tail : Option Int) :
    c.recorded.log (s, calls) ns pod container tail =
      ((c.log s ns pod container tail).1, (c.log s ns pod container tail).2,
        calls ++ [.opened ns pod container tail (c.log s ns pod container tail).1]) :=
  rfl

end

namespace Lookup

variable {α β σ : Type}

/-- The questions of a run with their answers, in order. -/
def transcript (c : Cluster σ) (d : Lookup α) (s : σ) : List Exchange :=
  (d.run c.recorded (s, [])).2.2.2

/-- The runs of a look-up, with one constructor for each of `Lookup`. The answers may be any. -/
inductive Goes : Lookup α → List Exchange → Except StreamFailure α → Prop
  | found (a : α) : Goes (.found a) [] (.ok a)
  | refused (why : StreamFailure) : Goes (.refused why) [] (.error why)
  | list {ns : String} {selector : Labels} {next : Except ClusterFailure (List Pod) → Lookup α}
      {calls : List Exchange} {outcome : Except StreamFailure α}
      (answer : Except ClusterFailure (List Pod)) (rest : Goes (next answer) calls outcome) :
      Goes (.list ns selector next) (.listed ns selector answer :: calls) outcome
  | get {ns pod : String} {next : Except ClusterFailure Pod → Lookup α} {calls : List Exchange}
      {outcome : Except StreamFailure α} (answer : Except ClusterFailure Pod)
      (rest : Goes (next answer) calls outcome) :
      Goes (.get ns pod next) (.got ns pod answer :: calls) outcome
  | log {ns pod container : String} {tail : Option Int}
      {next : Except ClusterFailure OpenLog → Lookup α} {calls : List Exchange}
      {outcome : Except StreamFailure α} (answer : Except ClusterFailure OpenLog)
      (rest : Goes (next answer) calls outcome) :
      Goes (.log ns pod container tail next) (.opened ns pod container tail answer :: calls) outcome
  | note {e : Event} {next : Lookup α} {calls : List Exchange} {outcome : Except StreamFailure α}
      (rest : Goes next calls outcome) : Goes (.note e next) calls outcome

/-! ## The recorded run -/

/-- A recorded run has the outcome, the events and the state of the run itself, and its list is
    longer by calls that the look-up `Goes`. -/
theorem recorded_goes (c : Cluster σ) (d : Lookup α) (s : σ) :
    ∃ calls, Goes d calls (d.run c s).1 ∧ ∀ before,
      d.run c.recorded (s, before) =
        ((d.run c s).1, (d.run c s).2.1, (d.run c s).2.2, before ++ calls) := by
  -- `before` has to be quantified inside: the list has grown when the second question is asked
  induction d generalizing s with
  | found a => exact ⟨[], .found a, by simp [run]⟩
  | refused why => exact ⟨[], .refused why, by simp [run]⟩
  | list ns selector next ih =>
    obtain ⟨calls, goes, same⟩ := ih (c.list s ns selector).1 (c.list s ns selector).2.2
    exact ⟨_, .list _ goes, fun before => by simp [run, same]⟩
  | get ns pod next ih =>
    obtain ⟨calls, goes, same⟩ := ih (c.get s ns pod).1 (c.get s ns pod).2
    exact ⟨_, .get _ goes, fun before => by simp [run, same]⟩
  | log ns pod container tail next ih =>
    obtain ⟨calls, goes, same⟩ :=
      ih (c.log s ns pod container tail).1 (c.log s ns pod container tail).2
    exact ⟨_, .log _ goes, fun before => by simp [run, same]⟩
  | note e next ih =>
    obtain ⟨calls, goes, same⟩ := ih s
    exact ⟨calls, .note goes, fun before => by simp [run, same]⟩

/-- The recorded run, as the run with its transcript appended to the list. -/
theorem run_recorded (c : Cluster σ) (d : Lookup α) (s : σ) (before : List Exchange) :
    d.run c.recorded (s, before) =
      ((d.run c s).1, (d.run c s).2.1, (d.run c s).2.2, before ++ d.transcript c s) := by
  obtain ⟨calls, _, same⟩ := recorded_goes c d s
  rw [transcript, same, same, List.nil_append]

section

variable (c : Cluster σ) (s : σ) (ns pod : String)

theorem transcript_list (selector : Labels) (next : Except ClusterFailure (List Pod) → Lookup α) :
    transcript c (.list ns selector next) s =
      .listed ns selector (c.list s ns selector).1 ::
        (next (c.list s ns selector).1).transcript c (c.list s ns selector).2.2 := by
  rw [transcript]
  simp only [run, Cluster.recorded_list, run_recorded]
  rfl

theorem transcript_get (next : Except ClusterFailure Pod → Lookup α) :
    transcript c (.get ns pod next) s =
      .got ns pod (c.get s ns pod).1 ::
        (next (c.get s ns pod).1).transcript c (c.get s ns pod).2 := by
  rw [transcript]
  simp only [run, Cluster.recorded_get, run_recorded]
  rfl

theorem transcript_log (container : String) (tail : Option Int)
    (next : Except ClusterFailure OpenLog → Lookup α) :
    transcript c (.log ns pod container tail next) s =
      .opened ns pod container tail (c.log s ns pod container tail).1 ::
        (next (c.log s ns pod container tail).1).transcript c (c.log s ns pod container tail).2 := by
  rw [transcript]
  simp only [run, Cluster.recorded_log, run_recorded]
  rfl


end

/-- Every run of a look-up is one that it `Goes`. -/
theorem goes_run (c : Cluster σ) (d : Lookup α) (s : σ) :
    Goes d (d.transcript c s) (d.run c s).1 := by
  obtain ⟨calls, goes, same⟩ := recorded_goes c d s
  rw [transcript, same, List.nil_append]
  exact goes

/-! ## Where a look-up goes -/

/-- The calls determine the outcome. -/
theorem Goes.unique {d : Lookup α} {calls : List Exchange} {outcome outcome' : Except StreamFailure α}
    (h : Goes d calls outcome) (h' : Goes d calls outcome') : outcome = outcome' := by
  induction h with
  | found | refused => cases h'; rfl
  | list _ _ ih => cases h' with | list _ rest => exact ih rest
  | get _ _ ih => cases h' with | get _ rest => exact ih rest
  | log _ _ ih => cases h' with | log _ rest => exact ih rest
  | note _ ih => cases h' with | note rest => exact ih rest

/-- A look-up that begins with a question has at least one call. -/
theorem Goes.ne_nil {d : Lookup α} {q : Question} {calls : List Exchange}
    {outcome : Except StreamFailure α} (h : Goes d calls outcome) (asks : d.question? = some q) :
    calls ≠ [] := by
  cases h with
  | list | get | log => exact List.cons_ne_nil _ _
  | found | refused | note => simp [question?] at asks

/-- The notes at the beginning of a look-up make no calls. -/
theorem goes_skim {d : Lookup α} {calls : List Exchange} {outcome : Except StreamFailure α} :
    Goes d.skim.2 calls outcome ↔ Goes d calls outcome := by
  induction d with
  | found | refused | list | get | log => rfl
  | note e next ih =>
    refine ⟨fun h => .note (ih.mp h), fun h => ?_⟩
    cases h with
    | note rest => exact ih.mpr rest

/-! ## One look-up after another -/

/-- The runs of `d.bind f`: either `d` is refused and `f` is not run, or `d` finds something and the
    calls are those of `d` followed by those of `f`. -/
theorem Goes.of_bind {d : Lookup α} {f : α → Lookup β} {calls : List Exchange}
    {outcome : Except StreamFailure β} (h : Goes (d.bind f) calls outcome) :
    (∃ why, outcome = .error why ∧ Goes d calls (.error why)) ∨
      ∃ a first rest, calls = first ++ rest ∧ Goes d first (.ok a) ∧ Goes (f a) rest outcome := by
  induction d generalizing calls with
  | found a => exact Or.inr ⟨a, [], calls, rfl, .found a, h⟩
  | refused why =>
    cases h
    exact Or.inl ⟨why, rfl, .refused why⟩
  | list ns selector next ih =>
    cases h with
    | list answer rest =>
      rcases ih answer rest with ⟨why, eq, goes⟩ | ⟨a, first, more, eq, goes, goes'⟩
      · exact Or.inl ⟨why, eq, .list answer goes⟩
      · exact Or.inr ⟨a, _ :: first, more, by rw [eq]; rfl, .list answer goes, goes'⟩
  | get ns pod next ih =>
    cases h with
    | get answer rest =>
      rcases ih answer rest with ⟨why, eq, goes⟩ | ⟨a, first, more, eq, goes, goes'⟩
      · exact Or.inl ⟨why, eq, .get answer goes⟩
      · exact Or.inr ⟨a, _ :: first, more, by rw [eq]; rfl, .get answer goes, goes'⟩
  | log ns pod container tail next ih =>
    cases h with
    | log answer rest =>
      rcases ih answer rest with ⟨why, eq, goes⟩ | ⟨a, first, more, eq, goes, goes'⟩
      · exact Or.inl ⟨why, eq, .log answer goes⟩
      · exact Or.inr ⟨a, _ :: first, more, by rw [eq]; rfl, .log answer goes, goes'⟩
  | note e next ih =>
    cases h with
    | note rest =>
      rcases ih rest with ⟨why, eq, goes⟩ | ⟨a, first, more, eq, goes, goes'⟩
      · exact Or.inl ⟨why, eq, .note goes⟩
      · exact Or.inr ⟨a, first, more, eq, .note goes, goes'⟩

end Lookup

end PodTail
