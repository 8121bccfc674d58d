import PodTail.Proofs.Relay.Position

/-!
# Runs settle

Termination. `Settled s r` says that `Run.step` leaves `r` as it is for good: the relay has ended,
or it is in a wait that never ends (`Pause s r none`) and nothing will cancel its token. `settles`
proves that a run gets there, with a bound on the number of steps.

The proof is a measure, `Run.toDo i r`, and an invariant, `Held s i r`. `Held` names a position `i`
of the log which the reader does not get past, for one of two reasons: the log ends, fails or falls
silent at `i`, or the token is cancelled and what stands at `i` would make the reader look at it.
`held_step` is the step lemma: a step finds the run settled, or keeps `Held` and lowers `toDo`.
`settles` is the strong induction on `toDo` over it.

For a `Script`, whose log is an array, the end of the array is such a position from the beginning.
So `Script.bound` steps are enough (`Script.settled`), and what `Script.run` shows does not depend
on how many steps it is given (`Script.run_eq`).
-/

set_option autoImplicit false

namespace PodTail

namespace Relay

variable {s : Setup} {r r' : Run} {i : Nat}

/-- The run will not change any more. -/
def Settled (s : Setup) (r : Run) : Prop :=
  (∃ result, r.relay.stage = .ended result) ∨
    Pause s r none ∧ r.cancelled = false ∧ s.cancelAt = none

/-- The log is not read beyond position `i`. -/
structure Held (s : Setup) (i : Nat) (r : Run) : Prop where
  wall : s.source i = none ∨ s.source i = some .silence ∨
    (∃ reason, s.source i = some (.failure reason)) ∨
    r.cancelled = true ∧ s.source i ≠ some .cancel ∧ s.source i ≠ some (.wait 0)
  taken : r.taken ≤ i ∨ (∃ result, r.relay.stage = .ended result) ∨
    ∃ reason, r.relay.stage = .writing (.failure reason)

/-- What a run may still do while the log is not read beyond position `i`, at thirteen steps for
    each step of the log: one to read, eleven to write, one to rest. -/
def Run.toDo (i : Nat) (r : Run) : Nat :=
  match r.relay.stage with
  | .reading => 13 * (i + 1 - r.taken) + 1
  | .resting => 13 * (i + 1 - r.taken) + 2
  | .writing _ => 13 * (i + 1 - r.taken) + r.moves.length + 3
  | .ended _ => 0

/-! ## The constants of the measure

Thirteen in `Run.toDo` is one step to read, eleven for a write (its ten moves at most and the step
that finds none left) and one to rest. `Plan.length_moves_le` is where the ten comes from. -/

theorem Plan.length_waiting_le (p : Plan) (phase : Phase) (ms : Nat) :
    (p.waiting phase ms).length ≤ 4 := by
  unfold waiting
  by_cases cancel : p.cancelIn = some phase <;> by_cases hang : p.hangIn = some phase <;>
    cases p.failIn with
    | none => simp [cancel, hang]
    | some f => by_cases fail : f.1 = phase <;> simp [cancel, hang, fail]

theorem Plan.length_moves_le (p : Plan) : p.moves.length ≤ 10 := by
  have ready := p.length_waiting_le .ready p.readyWait
  have flush := p.length_waiting_le .flush p.flushWait
  have sending : p.sending.length ≤ 2 := by
    unfold sending
    split
    · simp
    · split <;> simp
  simp only [moves, List.length_append]
  omega

/-! ## What is cancelled stays cancelled

No constructor of `Change` takes a cancellation back. `Held` needs this, since its second reason is
a cancelled token. -/

theorem cancelled_step (c : Change s r r') (h : r.cancelled = true) : r'.cancelled = true := by
  cases c with
  | called | readerCancels | writerCancels => rfl
  | ended | stuck | waits | finishes | begins | drops | lingers | records | fails | written
  | writtenLast | told | rested | restedLast => exact h

theorem cancelled_after {n : Nat} (h : (Run.after s n).cancelled = true) (d : Nat) :
    (Run.after s (n + d)).cancelled = true := by
  induction d with
  | zero => exact h
  | succ d ih => exact cancelled_step (step_change s _) ih

/-! ## The measure falls

What `Held` is for: a reader who finds something to get past (`short_of_next`) stands strictly
before `i`, so taking it leaves `i + 1 - r.taken` smaller by one and still positive. -/

namespace Held

theorem short (h : Held s i r) (ended : ∀ result, r.relay.stage ≠ .ended result)
    (failure : ∀ reason, r.relay.stage ≠ .writing (.failure reason)) : r.taken ≤ i := by
  rcases h.taken with short | ⟨result, at'⟩ | ⟨reason, at'⟩
  · exact short
  · exact absurd at' (ended result)
  · exact absurd at' (failure reason)

theorem wall_step (h : Held s i r) (c : Change s r r') :
    s.source i = none ∨ s.source i = some .silence ∨
      (∃ reason, s.source i = some (.failure reason)) ∨
      r'.cancelled = true ∧ s.source i ≠ some .cancel ∧ s.source i ≠ some (.wait 0) :=
  h.wall.imp_right <| Or.imp_right <| Or.imp_right fun ⟨token, next⟩ => ⟨cancelled_step c token, next⟩

/-- A reader who meets a step of the log that does not stop it stands before `i`: at `i` itself
    stands what does stop it. For a cancelled token only `.cancel` and a wait of no length do not.
    -/
theorem short_of_next {next : Feed.Step} (h : Held s i r) (stage : r.relay.stage = .reading)
    (at' : s.source r.taken = some next) (silence : next ≠ .silence)
    (failure : ∀ reason, next ≠ .failure reason)
    (remark : r.cancelled = true → next = .cancel ∨ next = .wait 0) : r.taken < i := by
  refine Nat.lt_of_le_of_ne (h.short (by simp [stage]) (by simp [stage])) ?_
  rintro rfl
  rcases h.wall with wall | wall | ⟨reason, wall⟩ | ⟨token, cancel, wait⟩
  · simp [at'] at wall
  · exact silence (Option.some.inj (at'.symm.trans wall))
  · exact failure reason (Option.some.inj (at'.symm.trans wall))
  · rcases remark token with rfl | rfl
    · exact cancel at'
    · exact wait at'

theorem of_ended (h : Held s i r) (c : Change s r r') {result : RelayEnd}
    (ended : r'.relay.stage = .ended result) : Held s i r' :=
  ⟨h.wall_step c, Or.inr (Or.inl ⟨result, ended⟩)⟩

end Held

theorem toDo_of_ended {result : RelayEnd} (h : r.relay.stage = .ended result) : r.toDo i = 0 := by
  simp [Run.toDo, h]

theorem toDo_pos (h : r.result? = none) : 0 < r.toDo i := by
  unfold Run.toDo
  cases stage : r.relay.stage with
  | ended result => exact absurd stage (Run.result?_eq_none.mp h result)
  | reading | resting | writing => exact Nat.zero_lt_succ _

/-- A step finds the run settled, or keeps it held and lowers the measure. -/
theorem held_step (c : Change s r r') (h : Held s i r) :
    Settled s r ∨ Held s i r' ∧ r'.toDo i < r.toDo i := by
  -- The measure of a run that has ended is zero and that of a running one is not.
  have ends : ∀ {result}, r'.relay.stage = .ended result → r.result? = none →
      Held s i r' ∧ r'.toDo i < r.toDo i := fun ended running =>
    ⟨h.of_ended c ended, toDo_of_ended ended ▸ toDo_pos running⟩
  have wall := h.wall_step c
  cases c with
  | ended stage => exact Or.inl (Or.inl ⟨_, stage⟩)
  | stuck pause token outside => exact Or.inl (Or.inr ⟨pause, token, outside⟩)
  | called pause => exact Or.inr (ends rfl pause.running)
  | finishes stage | drops o stage | fails o stage | writtenLast stage | told stage
  | restedLast stage => exact Or.inr (ends rfl (Run.result?_eq_none.mpr (by simp [stage])))
  | @waits ms stage next quiet =>
    -- A cancelled relay gets past a wait only if `ms = 0`.
    have remark : r.cancelled = true → Feed.Step.wait ms = .cancel ∨ Feed.Step.wait ms = .wait 0 :=
      fun token => Or.inr (congrArg _ (quiet.zero_of_cancelled token))
    have short := h.short_of_next stage next (by simp) (by simp) remark
    refine Or.inr ⟨⟨wall, Or.inl short⟩, ?_⟩
    simp only [Run.toDo, stage]
    omega
  | readerCancels stage next =>
    have short := h.short_of_next stage next (by simp) (by simp) fun _ => Or.inl rfl
    refine Or.inr ⟨⟨wall, Or.inl short⟩, ?_⟩
    simp only [Run.toDo, stage]
    omega
  | begins o stage next token =>
    have le := h.short (by simp [stage]) (by simp [stage])
    have moves := (s.plan r.begun).length_moves_le
    refine Or.inr ⟨⟨wall, ?_⟩, ?_⟩
    · cases o with
      | line text =>
        have short : r.taken < i := by
          apply h.short_of_next stage next <;> simp [Outgoing.item, token]
        exact Or.inl short
      -- A read error may stand at `i` itself. The relay ends with the write of it.
      | failure reason => exact Or.inr (Or.inr ⟨reason, rfl⟩)
    · simp only [Run.toDo, Run.begin, stage]
      omega
  | writerCancels o stage moves | lingers o stage moves | records o stage moves =>
    -- One move of the write is gone, and nothing else has changed.
    refine Or.inr ⟨⟨wall, h.taken⟩, ?_⟩
    simp only [Run.toDo, stage, moves, List.length_cons]
    omega
  | written stage moves =>
    have le := h.short (by simp [stage]) (by simp [stage])
    refine Or.inr ⟨⟨wall, Or.inl le⟩, ?_⟩
    simp only [Run.toDo, stage, moves]
    omega
  | rested stage =>
    have le := h.short (by simp [stage]) (by simp [stage])
    refine Or.inr ⟨⟨wall, Or.inl le⟩, ?_⟩
    simp only [Run.toDo, stage]
    omega

/-- **Held runs settle.** From a held run after `n` steps it takes at most `toDo` steps more. -/
theorem settles {n : Nat} (h : Held s i (Run.after s n)) :
    ∃ m, n ≤ m ∧ m ≤ n + (Run.after s n).toDo i ∧ Settled s (Run.after s m) := by
  generalize hk : (Run.after s n).toDo i = k
  induction k using Nat.strongRecOn generalizing n with
  | ind k ih =>
    rcases held_step (step_change s _) h with settled | ⟨held, less⟩
    · exact ⟨n, Nat.le_refl _, Nat.le_add_right .., settled⟩
    · obtain ⟨m, hn, hm, settled⟩ := ih _ (hk ▸ less) (n := n + 1) held rfl
      exact ⟨m, by omega, by change (Run.after s (n + 1)).toDo i < _ at less; omega, settled⟩

/-! ## A settled run stays

`Settled` is what `Change.ended` and `Change.stuck` ask for, the two constructors that change
nothing, and `Change.eq_step` says that no other step can be taken then. -/

theorem step_of_settled (h : Settled s r) : Run.step s r = r := by
  rcases h with ⟨result, stage⟩ | ⟨pause, token, outside⟩
  · exact (Change.ended stage).eq_step.symm
  · exact (Change.stuck pause token outside).eq_step.symm

theorem after_of_settled {n : Nat} (h : Settled s (Run.after s n)) (d : Nat) :
    Run.after s (n + d) = Run.after s n := by
  induction d with
  | zero => rfl
  | succ d ih =>
    rw [← Nat.add_assoc, Run.after, ih]
    exact step_of_settled h

/-- A run whose token is cancelled, or will be from outside, settles only by ending: the other way
    to settle needs both not to be the case. -/
theorem Settled.result_ne_none (h : Settled s r) (called : r.cancelled = true ∨ s.cancelAt ≠ none) :
    r.result? ≠ none := by
  rcases h with ⟨result, stage⟩ | ⟨_, token, outside⟩
  · simp [Run.result?_eq_some.mpr stage]
  · simp [token, outside] at called

/-! ## What is observed

`Run.observe` follows a run for so many steps and stops when the clock passes the limit or the relay
has ended. Since the clock never goes back (`now_le_step`), it shows `Run.after` if that is in time.
-/

theorem now_le_step (c : Change s r r') : r.now ≤ r'.now := by
  cases c with
  | called _ off =>
    obtain ⟨_, ⟨_, rfl⟩ | ⟨_, u, _, rfl, _⟩⟩ := off
    · exact Nat.le_refl _
    · exact Nat.le_max_left ..
  | waits | lingers | rested | restedLast => exact Nat.le_add_right ..
  | ended | stuck | readerCancels | finishes | begins | drops | writerCancels | records | fails
  | written | writtenLast | told => exact Nat.le_refl _

theorem now_le_after (s : Setup) (n d : Nat) : (Run.after s n).now ≤ (Run.after s (n + d)).now := by
  induction d with
  | zero => exact Nat.le_refl _
  | succ d ih => exact Nat.le_trans ih (now_le_step (step_change s _))

/-- `Run.observe` from step `k` for `n` steps is `Run.after` at `k + n`, if the clock is within the
    limit there. The induction is on `n` with `k` left free, as `observe` recurses from the front.
    -/
theorem observe_eq_after {limit : Nat} (n k : Nat) (h : (Run.after s (k + n)).now ≤ limit) :
    Run.observe s limit n (Run.after s k) = Run.after s (k + n) := by
  induction n generalizing k with
  | zero => rfl
  | succ n ih =>
    unfold Run.observe
    cases ended : (Run.after s k).result? with
    | some result => exact (Run.after_of_ended ended (n + 1)).symm
    | none =>
      have shift : k + (n + 1) = k + 1 + n := by omega
      rw [shift] at h ⊢
      have soon : (Run.after s (k + 1)).now ≤ limit :=
        Nat.le_trans (now_le_after s (k + 1) n) h
      exact (if_pos soon).trans (ih (k + 1) h)

namespace Script

variable (s : Script)

/-- The log of a script ends. -/
theorem source_size : s.setup.source s.source.size = none := by
  simp [setup]

/-- The run of a script has settled within the script's bound. -/
theorem settled : Settled s.setup (Run.after s.setup s.bound) := by
  have held : Held s.setup s.source.size (Run.after s.setup 0) :=
    ⟨Or.inl s.source_size, Or.inl (Nat.zero_le _)⟩
  have toDo : (Run.after s.setup 0).toDo s.source.size ≤ 13 * (s.source.size + 1) + 1 := by
    cases h : s.cancelledBefore <;>
      simp [Run.after, Run.toDo, Run.start, State.start, State.enter, setup, h]
  obtain ⟨m, _, le, settled⟩ := settles held
  obtain ⟨d, hd⟩ : ∃ d, s.bound = m + d := Nat.exists_eq_add_of_le (by rw [bound]; omega)
  rw [hd, after_of_settled settled]
  exact settled

/-- `Script.run` shows the settled run if the limit leaves it time to settle. A run that has settled
    without an end is shown with the clock at the limit. -/
theorem run_eq {limit : Nat} (h : (Run.after s.setup s.bound).now ≤ limit) :
    s.run limit =
      match (Run.after s.setup s.bound).result? with
      | some _ => Run.after s.setup s.bound
      | none => { Run.after s.setup s.bound with now := limit } := by
  have observed : Run.observe s.setup limit s.bound (Run.start s.setup) =
      Run.after s.setup s.bound := by
    have all := observe_eq_after (s := s.setup) s.bound 0 ((Nat.zero_add s.bound).symm ▸ h)
    rwa [Nat.zero_add] at all
  cases ended : (Run.after s.setup s.bound).result? with
  | some result => simp only [run, observed, ended]
  | none => simp only [run, observed, ended]

end Script

end Relay

end PodTail
