import PodTail.Proofs.Relay.Completion

/-!
# What the end of a relay tells

`ends_as_it_went` ties each of the four values of `RelayEnd` to what has happened to a write, to the
log or to the token. `WriteFailed` and `WriteDone` are the facts about writes, stated on the steps
of the run and without mention of its end: a step found the write with `Move.fail` as its next move,
or with no moves left.

From the write to the end the proof makes a step: `Change.fails` and `Change.told` end the relay at
once (`Run.step_of_fail`, `Run.step_of_told`), and the end stays (`Run.result?_of_lt`). From the end
to the write it takes one apart: `last_change` gives the step that ended the relay, and `went_step`
goes through its constructors with `Sound` for the run before it. `Went` is what is to be shown of
each end, so that one case analysis serves all four.

The failure of a write is not told in all cases. A line that could not be written ends the relay as
`transportFailure`, but an error frame that could not be written leaves the end at `readError`, the
same as if the client had got it. `unheard_read_error` is such a run.
-/

set_option autoImplicit false

namespace PodTail

namespace Relay

/-- One of the first `n` steps has found the write of `o` to fail. -/
def WriteFailed (s : Setup) (n : Nat) (o : Outgoing) : Prop :=
  ∃ m < n, (Run.after s m).relay.stage = .writing o ∧
    ∃ reason more, (Run.after s m).moves = .fail reason :: more

/-- One of the first `n` steps has found the write of `o` to be done. -/
def WriteDone (s : Setup) (n : Nat) (o : Outgoing) : Prop :=
  ∃ m < n, (Run.after s m).relay.stage = .writing o ∧ (Run.after s m).moves = []

variable {s : Setup} {r : Run} {n m : Nat} {o : Outgoing}

/-! ## From the write to the end

`Change.eq_step` turns the guards of a constructor into an equation for `Run.step`, from which the
end can be read. -/

namespace Run

theorem step_of_fail {reason : String} {more : List Move} (stage : r.relay.stage = .writing o)
    (moves : r.moves = .fail reason :: more) : (step s r).result? = some o.failed := by
  rw [← (Change.fails o stage moves).eq_step]
  rfl

theorem step_of_told {reason : String} (stage : r.relay.stage = .writing (.failure reason))
    (moves : r.moves = []) : (step s r).result? = some .readError := by
  rw [← (Change.told stage moves).eq_step]
  rfl

/-- An end that is there after step `m` is there after every later step. -/
theorem result?_of_lt {result : RelayEnd} (h : (after s (m + 1)).result? = some result)
    (before : m < n) : (after s n).result? = some result := by
  obtain ⟨d, rfl⟩ := Nat.exists_eq_add_of_lt before
  have same : after s (m + d + 1) = after s (m + 1) := by
    rw [Nat.add_right_comm]
    exact after_of_ended h d
  rw [same, h]

end Run

theorem WriteFailed.ends (h : WriteFailed s n o) : (Run.after s n).result? = some o.failed := by
  obtain ⟨m, before, stage, _, _, moves⟩ := h
  exact Run.result?_of_lt (Run.step_of_fail stage moves) before

theorem WriteDone.ends {reason : String} (h : WriteDone s n (.failure reason)) :
    (Run.after s n).result? = some .readError := by
  obtain ⟨m, before, stage, moves⟩ := h
  exact Run.result?_of_lt (Run.step_of_told stage moves) before

/-- If the relay has ended neither as `transportFailure` nor as `readError`, no write has failed: a
    failed write would have ended it as one of the two, and there is only one end. -/
theorem no_write_failed {result : RelayEnd} (ended : (Run.after s n).result? = some result)
    (line : result ≠ .transportFailure) (failure : result ≠ .readError) (o : Outgoing) :
    ¬ WriteFailed s n o := by
  intro failed
  obtain rfl := Option.some.inj (ended.symm.trans failed.ends)
  cases o with
  | line => exact line rfl
  | failure => exact failure rfl

/-! ## From the end to the write -/

/-- A run that has ended is still at its start, which is then cancelled, or was ended by the change
    of one step. It is `Run.last_step` with that step as a `Change`. -/
theorem last_change {result : RelayEnd} (ended : (Run.after s n).result? = some result) :
    Run.after s n = Run.start s ∨
      ∃ m < n, (Run.after s m).result? = none ∧ Change s (Run.after s m) (Run.after s n) := by
  refine (Run.last_step ended).imp_right ?_
  rintro ⟨m, before, running, same⟩
  exact ⟨m, before, running, same ▸ step_change s _⟩

theorem start_ended {result : RelayEnd} (ended : (Run.start s).result? = some result) :
    result = .cancelled ∧ (Run.start s).cancelled = true := by
  cases token : s.cancelledBefore <;>
    simp [Run.start, Run.result?, State.result?, State.start, State.enter, token] at ended ⊢
  exact ended.symm

/-- What has happened in the first `n` steps of a run that ended as this. -/
def Went (s : Setup) (n : Nat) : RelayEnd → Prop
  | .transportFailure => ∃ text, WriteFailed s n (.line text)
  | .readError => ∃ i reason, s.EndsAt i (.failed reason) ∧
      (WriteDone s n (.failure reason) ∧
          (Run.after s n).texts = s.lineFrames i ++ [errorFrame reason] ∨
        WriteFailed s n (.failure reason))
  | .exhausted => s.EndsAt (Run.after s n).taken .closed ∧
      (Run.after s n).texts = s.lineFrames (Run.after s n).taken ∧
      (Run.after s n).relay.forwarded = (s.lines (Run.after s n).taken).length
  | .cancelled => (Run.after s n).cancelled = true

/-- The step that ends a relay gives `Went` for the end. For `fails` and `told` the position of the
    read error in the log is that of `Within`. -/
theorem went_step {r' : Run} {result : RelayEnd} (before : m < n) (c : Change s (Run.after s m) r')
    (running : (Run.after s m).result? = none) (same : Run.after s n = r')
    (ended : r'.result? = some result) : Went s n result := by
  have sound := sound s m
  cases c with
  | ended | stuck => simp [running] at ended
  | waits stage | readerCancels stage | begins o stage | writerCancels o stage | lingers o stage
  | records o stage | written stage | rested stage =>
    simp [Run.result?, State.result?, Run.begin, stage] at ended
  | called =>
    obtain rfl : RelayEnd.cancelled = result := Option.some.inj ended
    rw [Went, same]
    rfl
  | drops _ _ _ token | writtenLast _ _ token | restedLast _ _ token =>
    obtain rfl : RelayEnd.cancelled = result := Option.some.inj ended
    rw [Went, same]
    exact token
  | finishes stage next =>
    obtain rfl : RelayEnd.exhausted = result := Option.some.inj ended
    have at' := sound.between stage
    rw [Went, same]
    exact ⟨⟨at'.openTo, next⟩, at'.texts, at'.forwarded⟩
  | fails o stage moves =>
    -- `Outgoing.failed` is where a line and a read error part: `transportFailure` or `readError`.
    obtain rfl : o.failed = result := Option.some.inj ended
    have failed : WriteFailed s n o := ⟨m, before, stage, _, _, moves⟩
    cases o with
    | line text => exact ⟨text, failed⟩
    | failure reason =>
      obtain ⟨i, _, at'⟩ := sound.within stage
      exact ⟨i, reason, ⟨at'.openTo, at'.item⟩, Or.inr failed⟩
  | @told reason stage moves =>
    obtain rfl : RelayEnd.readError = result := Option.some.inj ended
    obtain ⟨i, sent, at'⟩ := sound.within stage
    -- No moves are left, so the client has the error frame.
    obtain rfl := (moves ▸ at'.course).sent_of_nil
    refine ⟨i, reason, ⟨at'.openTo, at'.item⟩, Or.inl ⟨⟨m, before, stage, moves⟩, ?_⟩⟩
    rw [same]
    exact at'.texts

theorem went {result : RelayEnd} (ended : (Run.after s n).result? = some result) :
    Went s n result := by
  rcases last_change ended with start | ⟨m, before, running, c⟩
  · rw [start] at ended
    obtain ⟨rfl, token⟩ := start_ended ended
    rw [Went, start]
    exact token
  · exact went_step before c running rfl ended

/-! ## The four ends -/

/-- **A relay ends as what has happened to it.** It ends

    - as `transportFailure` if and only if the write of a line has failed;
    - as `readError` if and only if the log has failed and the error frame was written, behind the
      frames of all lines before, or its write has failed;
    - as `exhausted` only if the log has ended, every line of it is written and no write has failed;
    - as `cancelled` only if the token is cancelled and no write has failed. -/
theorem ends_as_it_went (s : Setup) (n : Nat) :
    let r := Run.after s n
    (r.result? = some .transportFailure ↔ ∃ text, WriteFailed s n (.line text)) ∧
      (r.result? = some .readError ↔ ∃ i reason, s.EndsAt i (.failed reason) ∧
        (WriteDone s n (.failure reason) ∧ r.texts = s.lineFrames i ++ [errorFrame reason] ∨
          WriteFailed s n (.failure reason))) ∧
      (r.result? = some .exhausted →
        s.EndsAt r.taken .closed ∧ r.texts = s.lineFrames r.taken ∧
          r.relay.forwarded = (s.lines r.taken).length ∧ ∀ o, ¬ WriteFailed s n o) ∧
      (r.result? = some .cancelled → r.cancelled = true ∧ ∀ o, ¬ WriteFailed s n o) := by
  refine ⟨⟨went, ?_⟩, ⟨went, ?_⟩, ?_, ?_⟩
  · rintro ⟨text, failed⟩
    exact failed.ends
  · rintro ⟨i, reason, _, ⟨done, _⟩ | failed⟩
    · exact done.ends
    · exact failed.ends
  · intro ended
    obtain ⟨at', texts, forwarded⟩ := went ended
    exact ⟨at', texts, forwarded, no_write_failed ended (by simp) (by simp)⟩
  · intro ended
    exact ⟨went ended, no_write_failed ended (by simp) (by simp)⟩

/-- A log that fails at once, for a client that takes no frame any more. -/
def unheard : Script where
  target := .ofPod "ns" "p" none
  throttle := 0
  source := #[.failure "boom"]
  plans := #[⟨none, 0, 0, none, some (.ready, "broken pipe")⟩]
  cancelledBefore := false
  cancelAt := none

/-- One line, for a client that takes it and then fails to have it delivered. -/
def halfway : Script where
  target := .ofPod "ns" "p" none
  throttle := 0
  source := #[.line "a", .failure "boom"]
  plans := #[⟨none, 0, 2, none, some (.flush, "broken pipe")⟩]
  cancelledBefore := false
  cancelAt := none

/-- The client has the line, but its write has failed in the flush, and the end is that of a failed
    write. -/
theorem halfway_ends :
    (∃ text, WriteFailed halfway.setup 5 (.line text)) ∧
      (Run.after halfway.setup 5).result? = some .transportFailure ∧
      (Run.after halfway.setup 5).texts = ["Pod: p line: a"] := by
  have ended : (Run.after halfway.setup 5).result? = some .transportFailure := by decide
  exact ⟨(ends_as_it_went halfway.setup 5).1.mp ended, ended, by decide⟩

/-- The only write of all has failed, no frame has been sent, and yet the relay ends as if the
    client had been told of the read error. -/
theorem unheard_read_error :
    WriteFailed unheard.setup 3 (.failure "boom") ∧
      (Run.after unheard.setup 3).texts = [] ∧
      (Run.after unheard.setup 3).result? = some .readError ∧
      ¬ ∀ (s : Setup) (n : Nat) (result : RelayEnd), (Run.after s n).result? = some result →
        (result = .transportFailure ↔ ∃ o, WriteFailed s n o) := by
  have failed : WriteFailed unheard.setup 3 (.failure "boom") :=
    ⟨2, by decide, rfl, "broken pipe", _, rfl⟩
  refine ⟨failed, rfl, rfl, fun told => ?_⟩
  have := (told unheard.setup 3 .readError rfl).mpr ⟨_, failed⟩
  contradiction

end Relay

end PodTail
