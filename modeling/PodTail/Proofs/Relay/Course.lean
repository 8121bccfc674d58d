import PodTail.Relay.Run

/-!
# The course of a write

`Run.write` consumes the list `Plan.moves` from the left, so the moves that a write still has before
it are a suffix of that list. `Plan.Course p sent left` says which suffix: with `sent = false` it
still contains the phase in which the client takes the frame, with `sent = true` it is a suffix of
`Plan.settling`, which is what follows that phase.

The lemmas follow the constructors of `Move`. `Course.record` is the one move that turns `sent` from
`false` to `true`; `Course.tail` says that every other move but a failure leaves it as it was. Two
facts about frames come out of this and are used by all of the theory of runs:

- `Course.record_notMem`: once the frame is taken, no second `Move.record` is left in the plan;
- `Course.sent_of_nil`: a write with no moves left has had its frame taken.

The last two lemmas, `Course.mem_moves` and `Course.cancelIn_of_mem`, go back from a move that is
left to the fields of the `Plan` that put it there.
-/

set_option autoImplicit false

namespace PodTail

namespace Relay

/-! ## The phases of a plan

`Plan.moves` is `ready ++ sending ++ flush`. The only `Move.record` stands in `Plan.sending`, and
`sending_cases` says when it is missing: the plan fails in `Phase.send`. -/

namespace Plan

/-- The moves behind `Move.record`: the cancellation that the plan has for `Phase.send`, and the
    flush. -/
def settling (p : Plan) : List Move :=
  (if p.cancelIn = some .send then [.cancel] else []) ++ p.waiting .flush p.flushWait

/-- A write by the plan `p` has the moves `left` before it, and `sent` says whether the client has
    taken the frame. -/
inductive Course (p : Plan) : Bool → List Move → Prop where
  | before {left ready : List Move} (suffix : ready <:+ p.waiting .ready p.readyWait)
      (eq : left = ready ++ (p.sending ++ p.waiting .flush p.flushWait)) : Course p false left
  | after {left : List Move} (suffix : left <:+ p.settling) : Course p true left

theorem record_notMem_waiting (p : Plan) (phase : Phase) (ms : Nat) :
    Move.record ∉ p.waiting phase ms := by
  unfold waiting
  cases p.failIn with
  | none => simp
  | some f => by_cases h : f.1 = phase <;> simp [h]

theorem record_notMem_settling (p : Plan) : Move.record ∉ p.settling := by
  have h := p.record_notMem_waiting .flush p.flushWait
  unfold settling
  by_cases hc : p.cancelIn = some .send <;> simp [hc, h]

/-- `Plan.sending` is a failure, or else it begins with `Move.record` and `Plan.settling` is what
    follows up to the end of the plan. -/
theorem sending_cases (p : Plan) :
    (∃ reason, p.sending = [.fail reason]) ∨
      p.sending ++ p.waiting .flush p.flushWait = .record :: p.settling := by
  unfold sending settling
  match p.failIn with
  | none => exact Or.inr rfl
  | some (.ready, _) => exact Or.inr rfl
  | some (.send, reason) => exact Or.inl ⟨reason, rfl⟩
  | some (.flush, _) => exact Or.inr rfl

/-! ## The moves that are left -/

namespace Course

variable {p : Plan} {sent : Bool} {m : Move} {more : List Move}

theorem start (p : Plan) : Course p false p.moves := by
  refine .before (List.suffix_refl _) ?_
  rw [moves, List.append_assoc]

/-- A write that has nothing left to do has given the client its frame. -/
theorem sent_of_nil (h : Course p sent []) : sent = true := by
  cases h with
  | after => rfl
  | before _ eq =>
    rcases p.sending_cases with ⟨reason, hs⟩ | hs <;> rw [hs] at eq <;> simp at eq

/-- A write goes on from a move that is neither the client's taking of the frame nor a failure. -/
theorem tail (h : Course p sent (m :: more)) (record : m ≠ .record)
    (fail : ∀ reason, m ≠ .fail reason) : Course p sent more := by
  cases h with
  | after suffix => exact .after ((List.suffix_cons m more).trans suffix)
  | @before _ ready suffix eq =>
    cases ready with
    | cons m' ready' =>
      rw [List.cons_append, List.cons.injEq] at eq
      exact .before ((List.suffix_cons m' ready').trans suffix) eq.2
    | nil =>
      -- The ready phase is over, so `m` opens `Plan.sending`: a failure or `Move.record`.
      rw [List.nil_append] at eq
      rcases p.sending_cases with ⟨reason, hs⟩ | hs
      · rw [hs, List.singleton_append, List.cons.injEq] at eq
        exact absurd eq.1 (fail reason)
      · rw [hs, List.cons.injEq] at eq
        exact absurd eq.1 record

/-- Once the client has the frame, no `Move.record` is left that could give it again. -/
theorem record_notMem {left : List Move} (h : Course p true left) : Move.record ∉ left := by
  cases h with
  | after suffix => exact fun mem => p.record_notMem_settling (suffix.subset mem)

/-- `Move.record` is met once, with the frame not yet taken, and leads into `Plan.settling`. -/
theorem record (h : Course p sent (.record :: more)) : sent = false ∧ Course p true more := by
  cases h with
  | after suffix => exact absurd List.mem_cons_self (Course.after suffix).record_notMem
  | @before _ ready suffix eq =>
    cases ready with
    | cons m' ready' =>
      -- `record_notMem_waiting`: the ready phase has no such move.
      rw [List.cons_append, List.cons.injEq] at eq
      exact absurd (suffix.subset (eq.1 ▸ List.mem_cons_self)) (p.record_notMem_waiting _ _)
    | nil =>
      rw [List.nil_append] at eq
      rcases p.sending_cases with ⟨reason, hs⟩ | hs
      · rw [hs] at eq
        simp at eq
      · rw [hs, List.cons.injEq] at eq
        exact ⟨rfl, .after (eq.2 ▸ List.suffix_refl _)⟩

/-- With the frame taken, every move but the cancellation that `Plan.settling` may begin with
    belongs to the flush. So a write that waits or fails behind its frame does so in `Phase.flush`.
    -/
theorem flush (h : Course p true (m :: more)) (cancel : m ≠ .cancel) :
    m :: more <:+ p.waiting .flush p.flushWait := by
  cases h with
  | after suffix =>
    unfold settling at suffix
    by_cases hc : p.cancelIn = some .send
    · rw [if_pos hc, List.singleton_append, List.suffix_cons_iff] at suffix
      exact suffix.resolve_left fun h => cancel (List.cons.inj h).1
    · rwa [if_neg hc, List.nil_append] at suffix

/-- What is left of a write stands in its plan, cancellations apart: the plan's `send` phase cancels
    the token only if it does not fail. -/
theorem mem_moves {left : List Move} (h : Course p sent left) (mem : m ∈ left)
    (cancel : m ≠ .cancel) : m ∈ p.moves := by
  rw [moves, List.append_assoc]
  cases h with
  | before suffix eq =>
    rw [eq] at mem
    rcases List.mem_append.mp mem with mem | mem
    · exact List.mem_append_left _ (suffix.subset mem)
    · exact List.mem_append_right _ mem
  | after suffix =>
    rcases List.mem_append.mp (suffix.subset mem) with mem | mem
    · exact absurd (by simpa using (List.mem_ite_nil_right.mp mem).2) cancel
    · exact List.mem_append_right _ (List.mem_append_right _ mem)

/-- A `Move.cancel` that is left comes from `Plan.cancelIn`. A plan without it has no cancellation
    in any of its phases, so the suffix cannot have one either. -/
theorem cancelIn_of_mem {left : List Move} (h : Course p sent left) (mem : Move.cancel ∈ left) :
    p.cancelIn ≠ none := by
  intro none
  have waiting : ∀ phase ms, Move.cancel ∉ p.waiting phase ms := by
    intro phase ms
    unfold waiting
    cases p.failIn with
    | none => simp [none]
    | some f => by_cases h : f.1 = phase <;> simp [none, h]
  have settling : Move.cancel ∉ p.settling := by
    simp [Plan.settling, none, waiting]
  cases h with
  | after suffix => exact settling (suffix.subset mem)
  | before suffix eq =>
    rw [eq] at mem
    rcases List.mem_append.mp mem with mem | mem
    · exact waiting _ _ (suffix.subset mem)
    · rcases p.sending_cases with ⟨reason, hs⟩ | hs
      · rw [hs] at mem
        simp [waiting] at mem
      · rw [hs] at mem
        simp [settling] at mem

end Course

end Plan

end Relay

end PodTail
