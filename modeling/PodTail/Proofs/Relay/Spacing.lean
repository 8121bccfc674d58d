import PodTail.Proofs.Relay.Completion

/-!
# The rest between two frames

`rests_between_frames`: after every line it has written, a relay rests for `Setup.throttle` before
it takes the next step from the log. So the next write begins no sooner than that after the last one
was done, `exhausted` is found no sooner, and the times of any two frames are at least that far
apart. The rest is counted from the end of the write, so neither a slow write nor a quiet log
shortens it.

The invariant is `Rested s t r`, relative to a time `t` at which a rest fell due: the clock has not
gone back behind `t`, and if the relay has gone on since (`Run.Onward`), the clock stands at `t +
s.throttle` or later. `rested_step` keeps it whatever `t` is. It is used with two choices of `t`,
the end of a write (`rested_of_done`, `rested_after`) and the moment at which a frame was taken
(`Paced`).

`Run.Idle` is the other half: if no write is under way, the last write that began is done
(`done_before`), so there is an end of a write to count from.
-/

set_option autoImplicit false

namespace PodTail

namespace Relay

variable {s : Setup} {r r' : Run}

/-- The write that the relay is in has nothing left to do. -/
def Run.Done (r : Run) : Prop :=
  ∃ o, r.relay.stage = .writing o ∧ r.moves = []

/-- What a relay does only after a rest: it reads, it writes and has not given the frame yet, or it
    has found the end of its log. -/
def Run.Onward (r : Run) : Prop :=
  r.relay.stage = .reading ∨ (∃ o, r.relay.stage = .writing o ∧ .record ∈ r.moves) ∨
    r.relay.stage = .ended .exhausted

/-- The relay owed a rest at the time `t`, and has taken it if it has gone on. -/
structure Rested (s : Setup) (t : Nat) (r : Run) : Prop where
  since : t ≤ r.now
  onward : r.Onward → t + s.throttle ≤ r.now

/-! ## One rest

The only constructor of `Change` that leads from outside `Run.Onward` into it is `Change.rested`,
and that one puts the clock on by the throttle. -/

/-- Where the relay is `Onward` after a step, it was so before, or the step was the end of its rest.
    -/
theorem onward_step (c : Change s r r') (onward : r'.Onward) :
    r.Onward ∨ r.relay.stage = .resting ∧ r'.now = r.now + s.throttle := by
  cases c with
  | ended | stuck => exact Or.inl onward
  | waits stage | readerCancels stage | finishes stage | begins _ stage =>
    exact Or.inl (Or.inl stage)
  | rested stage => exact Or.inr ⟨stage, rfl⟩
  | called | drops | writtenLast | told | restedLast => simp [Run.Onward, Run.close] at onward
  | fails o => cases o <;> simp [Run.Onward, Run.close, Outgoing.failed] at onward
  | written => simp [Run.Onward] at onward
  | writerCancels o stage moves | lingers o stage moves =>
    have mem : .record ∈ r.moves := by
      simpa [Run.Onward, stage, moves] using onward
    exact Or.inl (Or.inr (Or.inl ⟨o, stage, mem⟩))
  | records o stage moves => exact Or.inl (Or.inr (Or.inl ⟨o, stage, by simp [moves]⟩))

/-- A step keeps `Rested`, for every `t`. -/
theorem rested_step {t : Nat} (c : Change s r r') (h : Rested s t r) : Rested s t r' := by
  refine ⟨Nat.le_trans h.since (now_le_step c), ?_⟩
  intro onward
  rcases onward_step c onward with before | ⟨_, now⟩
  · exact Nat.le_trans (h.onward before) (now_le_step c)
  · rw [now]
    exact Nat.add_le_add_right h.since _

/-- The step from a write that is done establishes `Rested` for the time at which it was done: the
    relay rests then, or has ended otherwise than as `exhausted`. -/
theorem rested_of_done (c : Change s r r') (done : r.Done) : Rested s r.now r' := by
  obtain ⟨o, stage, moves⟩ := done
  refine ⟨now_le_step c, ?_⟩
  intro onward
  rcases onward_step c onward with (reading | ⟨_, _, mem⟩ | ended) | ⟨resting, _⟩
  · simp [stage] at reading
  · simp [moves] at mem
  · simp [stage] at ended
  · simp [stage] at resting

theorem rested_after {m n : Nat} (later : m < n) (done : (Run.after s m).Done) :
    Rested s (Run.after s m).now (Run.after s n) := by
  obtain ⟨d, rfl⟩ := Nat.exists_eq_add_of_lt later
  induction d with
  | zero => exact rested_of_done (step_change s _) done
  | succ d ih => exact rested_step (step_change s _) (ih (by omega))

/-! ## The write before

`RestOver s n` puts both halves together: at step `n` the last write is done, and its rest is over.
It is what holds where a write begins and where the relay finds the end of its log. -/

/-- No write is under way, and none has been given up. -/
def Run.Idle (r : Run) : Prop :=
  r.relay.stage = .reading ∨ r.relay.stage = .resting ∨ r.relay.stage = .ended .exhausted

theorem idle_step (c : Change s r r') (idle : r'.Idle) :
    (r.Idle ∨ r.Done) ∧ r'.begun = r.begun := by
  cases c with
  | ended | stuck => exact ⟨Or.inl idle, rfl⟩
  | waits stage | readerCancels stage | finishes stage => exact ⟨Or.inl (Or.inl stage), rfl⟩
  | rested stage => exact ⟨Or.inl (Or.inr (Or.inl stage)), rfl⟩
  | written stage moves => exact ⟨Or.inr ⟨_, stage, moves⟩, rfl⟩
  | called | drops | writtenLast | told | restedLast => simp [Run.Idle, Run.close] at idle
  | fails o => cases o <;> simp [Run.Idle, Run.close, Outgoing.failed] at idle
  | begins => simp [Run.Idle, Run.begin] at idle
  | writerCancels _ stage | lingers _ stage | records _ stage => simp [Run.Idle, stage] at idle

/-- If no write is under way, the last one that has begun is done, and the step at which it was is
    found by going back over the steps that were idle as well. -/
theorem done_before {n : Nat} (idle : (Run.after s n).Idle) (some : 0 < (Run.after s n).begun) :
    ∃ m < n, (Run.after s m).Done ∧ (Run.after s m).begun = (Run.after s n).begun := by
  induction n with
  | zero => exact absurd some (Nat.lt_irrefl 0)
  | succ n ih =>
    obtain ⟨before, begun⟩ := idle_step (step_change s (Run.after s n)) idle
    change (Run.after s (n + 1)).begun = _ at begun
    rw [begun] at some ⊢
    -- Either the write was done in this very step, or the step before was idle too.
    rcases before with idle | done
    · obtain ⟨m, before, last⟩ := ih idle some
      exact ⟨m, Nat.lt_succ_of_lt before, last⟩
    · exact ⟨n, Nat.lt_succ_self n, done, rfl⟩

/-- Every write that has begun is done, the last one as well, and the rest after it is over. -/
structure RestOver (s : Setup) (n : Nat) : Prop where
  done : 0 < (Run.after s n).begun →
    ∃ m < n, (Run.after s m).Done ∧ (Run.after s m).begun = (Run.after s n).begun
  rested : ∀ m < n, (Run.after s m).Done →
    (Run.after s m).now + s.throttle ≤ (Run.after s n).now

theorem restOver {n : Nat} (idle : (Run.after s n).Idle) (onward : (Run.after s n).Onward) :
    RestOver s n where
  done := done_before idle
  rested _ later done := (rested_after later done).onward onward

/-- Only a relay that reads begins a write. -/
theorem reading_of_begun (c : Change s r r') (begins : r.begun < r'.begun) :
    r.relay.stage = .reading := by
  cases c with
  | begins _ stage => exact stage
  | ended | stuck | called | waits | readerCancels | finishes | drops | writerCancels | lingers
  | records | fails | written | writtenLast | told | rested | restedLast =>
    exact absurd begins (Nat.lt_irrefl _)

/-! ## One frame after the other -/

/-- The frames so far are as far apart as they have to be, and so will the next one be. -/
structure Paced (s : Setup) (r : Run) : Prop where
  apart : r.frames.Pairwise fun earlier later => earlier.1 + s.throttle ≤ later.1
  rested : ∀ frame ∈ r.frames, Rested s frame.1 r

theorem paced_step (sound : Sound s r) (c : Change s r r') (h : Paced s r) : Paced s r' := by
  have owed : ∀ frame ∈ r.frames, Rested s frame.1 r' := fun frame mem =>
    rested_step c (h.rested frame mem)
  rcases c.frames_cases with same | ⟨o, more, stage, moves, rfl⟩
  · exact ⟨same ▸ h.apart, same ▸ owed⟩
  · obtain ⟨i, sent, at'⟩ := sound.within stage
    have onward : r.Onward := Or.inr (Or.inl ⟨o, stage, by simp [moves]⟩)
    constructor
    · refine List.pairwise_append.mpr ⟨h.apart, List.pairwise_singleton _ _, ?_⟩
      intro earlier mem later new
      obtain rfl := List.mem_singleton.mp new
      exact (h.rested earlier mem).onward onward
    · intro frame mem
      rcases List.mem_append.mp mem with old | new
      · exact owed frame old
      · obtain rfl := List.mem_singleton.mp new
        -- `Course.record_notMem`: no second frame is left in this write, so the run is not `Onward`
        -- here, and the second clause of `Rested` holds for want of a case.
        have given : .record ∉ more := (moves ▸ at'.course).record.2.record_notMem
        refine ⟨Nat.le_refl _, ?_⟩
        intro onward
        simp [Run.Onward, stage, given] at onward

theorem paced (s : Setup) (n : Nat) : Paced s (Run.after s n) := by
  induction n with
  | zero => exact ⟨List.Pairwise.nil, by simp [Run.after, Run.start]⟩
  | succ n ih => exact paced_step (sound s n) (step_change s _) ih

/-- **A relay rests between two frames.** Of any two frames, an error frame included, the later came
    at least `s.throttle` after the earlier. Where a write begins, the write before it was done at
    least `s.throttle` ago, and so it was where the relay ends as `exhausted`. This holds for every
    setup, so it does not matter what the log, the client and those who cancel the token do. -/
theorem rests_between_frames (s : Setup) (n : Nat) :
    let run := Run.after s
    ((run n).frames.Pairwise fun earlier later => earlier.1 + s.throttle ≤ later.1) ∧
      ((run n).begun < (run (n + 1)).begun → RestOver s n) ∧
      ((run n).result? = some .exhausted → RestOver s n) := by
  intro run
  refine ⟨(paced s n).apart, ?_, ?_⟩
  · intro begins
    have reading := reading_of_begun (step_change s (run n)) begins
    exact restOver (Or.inl reading) (Or.inl reading)
  · intro ended
    have stage := Run.result?_eq_some.mp ended
    exact restOver (Or.inr (Or.inr stage)) (Or.inr (Or.inr stage))

/-- After a slow write the relay rests first, and the wait of the log comes on top of that. -/
theorem leisurely_rests :
    (Run.after leisurely.setup 7).begun < (Run.after leisurely.setup 8).begun ∧
      (Run.after leisurely.setup 4).Done ∧ (Run.after leisurely.setup 4).now = 3 ∧
      3 + 3 ≤ (Run.after leisurely.setup 7).now := by
  have begins : (Run.after leisurely.setup 7).begun < (Run.after leisurely.setup 8).begun := by decide
  have done : (Run.after leisurely.setup 4).Done := ⟨.line "a", by decide, by decide⟩
  have rest := (rests_between_frames leisurely.setup 7).2.1 begins
  exact ⟨begins, done, by decide, rest.rested 4 (by decide) done⟩

end Relay

end PodTail
