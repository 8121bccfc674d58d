import PodTail.Proofs.Relay.Course
import PodTail.Proofs.Relay.Step

/-!
# Where a run stands

The invariant of a run. While the relay runs, the frames the client has are determined by the stage
and by how many steps of the log have been taken:

- between two writes (`Between`, the stages `reading` and `resting`) they are the frames of all the
  lines taken so far, `Setup.lineFrames s r.taken`;
- within a write (`Within`) they are the frames of the lines before the item that is being written,
  and the frame of that item as well if `Plan.Course` says that it has been taken.

`Sound` joins the two by the stage. `sound_start` and `sound_step` make it an invariant, and `sound`
is the induction over `Run.after`. The steps between two writes are `Between.skip`, the moves within
a write `Within.tail`; only a frame that is taken and a write that is done change the counts.

A relay that has ended needs no clause of its own: `Sound.ended` says nothing about the frames. What
holds at the end is read off the step that ended it, with `Run.last_step` and with `Sound` for the
run before that step.
-/

set_option autoImplicit false

namespace PodTail

namespace Relay

/-! ## What the log holds

`Setup.lines s i` are the lines among the first `i` steps of the log, by recursion on `i`, so that
one more step of reading is one more unfolding: `lines_line` if it is a line, `lines_other` if it is
not. `OpenTo` is the side condition under which reading can get as far as `i` at all. -/

namespace Setup

/-- The lines among the first so many steps of the log. -/
def lines (s : Setup) : Nat → List String
  | 0 => []
  | i + 1 =>
    match s.source i with
    | some (.line text) => s.lines i ++ [text]
    | _ => s.lines i

/-- The frames of those lines. -/
def lineFrames (s : Setup) (i : Nat) : List String :=
  (s.lines i).map s.target.frame

/-- The log goes on behind its first `i` steps: it has not ended with them, nor failed, nor fallen
    silent. -/
def OpenTo (s : Setup) (i : Nat) : Prop :=
  ∀ j < i, s.source j ≠ none ∧ s.source j ≠ some .silence ∧
    ∀ reason, s.source j ≠ some (.failure reason)

variable {s : Setup} {i : Nat}

theorem lines_line {text : String} (h : s.source i = some (.line text)) :
    s.lines (i + 1) = s.lines i ++ [text] := by
  simp [lines, h]

theorem lines_other (h : ∀ text, s.source i ≠ some (.line text)) : s.lines (i + 1) = s.lines i := by
  rw [lines]
  split
  · exact absurd ‹_› (h _)
  · rfl

theorem openTo_zero (s : Setup) : s.OpenTo 0 := fun _ h => absurd h (Nat.not_lt_zero _)

/-- A line, a wait and a cancelled token leave the log open. -/
theorem OpenTo.succ (h : s.OpenTo i) (none : s.source i ≠ none)
    (silence : s.source i ≠ some .silence)
    (failure : ∀ reason, s.source i ≠ some (.failure reason)) : s.OpenTo (i + 1) := by
  intro j hj
  rcases Nat.lt_succ_iff_lt_or_eq.mp hj with hj | rfl
  · exact h j hj
  · exact ⟨none, silence, failure⟩

end Setup

/-! ## The invariant -/

/-- The frames the client has, without their times. -/
def Run.texts (r : Run) : List String :=
  r.frames.map (·.2)

/-- The plan of the write that has begun last. -/
abbrev Setup.current (s : Setup) (r : Run) : Plan :=
  s.plan (r.begun - 1)

/-- Between two writes: everything read has been taken by the client. -/
structure Between (s : Setup) (r : Run) : Prop where
  openTo : s.OpenTo r.taken
  texts : r.texts = s.lineFrames r.taken
  begun : r.begun = (s.lines r.taken).length
  forwarded : r.relay.forwarded = (s.lines r.taken).length

/-- In the write of `o`, which stands at position `i` of the log; `sent` says whether the client has
    taken it. -/
structure Within (s : Setup) (r : Run) (o : Outgoing) (i : Nat) (sent : Bool) : Prop where
  item : s.source i = some o.item
  taken : r.taken = i + 1
  openTo : s.OpenTo i
  course : (s.current r).Course sent r.moves
  texts : r.texts = s.lineFrames i ++ if sent then [o.frame s.target] else []
  begun : r.begun = (s.lines i).length + 1
  forwarded : r.relay.forwarded = (s.lines i).length

/-- The invariant: the stage says which of `Between` and `Within` holds. A relay at rest has its
    token not cancelled, since `State.enter` does not let it rest otherwise. -/
inductive Sound (s : Setup) (r : Run) : Prop where
  | reading (stage : r.relay.stage = .reading) (at' : Between s r)
  | resting (stage : r.relay.stage = .resting) (token : r.cancelled = false) (at' : Between s r)
  | writing {o : Outgoing} {i : Nat} {sent : Bool} (stage : r.relay.stage = .writing o)
      (at' : Within s r o i sent)
  | ended {result : RelayEnd} (stage : r.relay.stage = .ended result)

namespace Sound

variable {s : Setup} {r r' : Run}

theorem between (h : Sound s r) (stage : r.relay.stage = .reading) : Between s r := by
  cases h with
  | reading _ at' => exact at'
  | resting stage' | writing stage' | ended stage' => simp [stage'] at stage

theorem atRest (h : Sound s r) (stage : r.relay.stage = .resting) :
    r.cancelled = false ∧ Between s r := by
  cases h with
  | resting _ token at' => exact ⟨token, at'⟩
  | reading stage' | writing stage' | ended stage' => simp [stage'] at stage

theorem within {o : Outgoing} (h : Sound s r) (stage : r.relay.stage = .writing o) :
    ∃ i sent, Within s r o i sent := by
  cases h with
  | @writing o' i sent stage' at' =>
    obtain rfl : o' = o := by simpa [stage'] using stage
    exact ⟨i, sent, at'⟩
  | reading stage' | resting stage' | ended stage' => simp [stage'] at stage

end Sound

theorem sound_start (s : Setup) : Sound s (Run.start s) := by
  cases h : s.cancelledBefore with
  | true =>
    have stage : (Run.start s).relay.stage = .ended .cancelled := by
      simp [Run.start, State.start, State.enter, h]
    exact .ended stage
  | false =>
    refine .reading (by simp [Run.start, State.start, State.enter, h]) ?_
    exact ⟨s.openTo_zero, rfl, rfl, by simp [Run.start, State.start, State.enter, h, Setup.lines]⟩

/-- The relay meets something that is neither written nor ends it, and reads on. -/
theorem Between.skip {s : Setup} {r r' : Run} (h : Between s r) (taken : r'.taken = r.taken + 1)
    (next : (∃ ms, s.source r.taken = some (.wait ms)) ∨ s.source r.taken = some .cancel)
    (frames : r'.frames = r.frames) (begun : r'.begun = r.begun)
    (relay : r'.relay.forwarded = r.relay.forwarded) : Between s r' := by
  have same : s.lines (r.taken + 1) = s.lines r.taken := by
    apply Setup.lines_other
    rcases next with ⟨ms, next⟩ | next <;> simp [next]
  have openTo : s.OpenTo (r.taken + 1) := by
    apply h.openTo.succ <;> rcases next with ⟨ms, next⟩ | next <;> simp [next]
  refine ⟨taken ▸ openTo, ?_, ?_, ?_⟩
  · rw [Run.texts, frames, taken, Setup.lineFrames, same]
    exact h.texts
  · rw [begun, taken, same, h.begun]
  · rw [relay, taken, same, h.forwarded]

/-- A write goes on with a move that only takes time or cancels the token. -/
theorem Within.tail {s : Setup} {r r' : Run} {o : Outgoing} {i : Nat} {sent : Bool} {m : Move}
    (h : Within s r o i sent) (moves : r.moves = m :: r'.moves) (record : m ≠ .record)
    (fail : ∀ reason, m ≠ .fail reason) (taken : r'.taken = r.taken) (begun : r'.begun = r.begun)
    (frames : r'.frames = r.frames) (relay : r'.relay = r.relay) : Within s r' o i sent where
  item := h.item
  taken := taken ▸ h.taken
  openTo := h.openTo
  course := by
    rw [Setup.current, begun]
    exact (moves ▸ h.course).tail record fail
  texts := by rw [Run.texts, frames]; exact h.texts
  begun := begun ▸ h.begun
  forwarded := relay ▸ h.forwarded

/-- One step keeps `Sound`. Every constructor that ends the relay goes to `Sound.ended`; the others
    change the stage, the moves or the position, and keep the frames in step with them. -/
theorem sound_step {s : Setup} {r r' : Run} (c : Change s r r') (h : Sound s r) : Sound s r' := by
  cases c with
  | ended | stuck => exact h
  | called | finishes | drops | fails | writtenLast | told | restedLast => exact .ended rfl
  | waits stage next =>
    exact .reading stage ((h.between stage).skip rfl (Or.inl ⟨_, next⟩) rfl rfl rfl)
  | readerCancels stage next =>
    exact .reading stage ((h.between stage).skip rfl (Or.inr next) rfl rfl rfl)
  | begins o stage next =>
    have at' := h.between stage
    refine .writing rfl ⟨next, rfl, at'.openTo, .start _, ?_, ?_, at'.forwarded⟩
    · rw [if_neg Bool.false_ne_true, List.append_nil]
      exact at'.texts
    · exact congrArg (· + 1) at'.begun
  | writerCancels o stage moves =>
    obtain ⟨i, sent, at'⟩ := h.within stage
    exact .writing stage (at'.tail moves (by simp) (by simp) rfl rfl rfl rfl)
  | lingers o stage moves =>
    obtain ⟨i, sent, at'⟩ := h.within stage
    exact .writing stage (at'.tail moves (by simp) (by simp) rfl rfl rfl rfl)
  | records o stage moves =>
    obtain ⟨i, sent, at'⟩ := h.within stage
    -- `Course.record` gives `sent = false` before the step, so the frame is a new one.
    obtain ⟨rfl, course⟩ := (moves ▸ at'.course).record
    refine .writing stage ⟨at'.item, at'.taken, at'.openTo, course, ?_, at'.begun, at'.forwarded⟩
    have texts := at'.texts
    rw [if_neg Bool.false_ne_true, List.append_nil] at texts
    rw [if_pos rfl, ← texts]
    simp [Run.texts]
  | @written text stage moves token =>
    obtain ⟨i, sent, at'⟩ := h.within stage
    -- Nothing is left to do in the write, so the client has the frame, and the line counts.
    obtain rfl := (moves ▸ at'.course).sent_of_nil
    have lines : s.lines (i + 1) = s.lines i ++ [text] := Setup.lines_line at'.item
    refine .resting rfl token ⟨?_, ?_, ?_, ?_⟩
    · refine at'.taken ▸ at'.openTo.succ ?_ ?_ ?_ <;> simp [at'.item, Outgoing.item]
    · refine at'.texts.trans ?_
      rw [if_pos rfl, at'.taken, Setup.lineFrames, Setup.lineFrames, lines]
      simp [Outgoing.frame]
    · refine at'.begun.trans ?_
      rw [at'.taken, lines, List.length_append, List.length_singleton]
    · refine (congrArg (· + 1) at'.forwarded).trans ?_
      rw [at'.taken, lines, List.length_append, List.length_singleton]
  | rested stage =>
    obtain ⟨_, at'⟩ := h.atRest stage
    exact .reading rfl ⟨at'.openTo, at'.texts, at'.begun, at'.forwarded⟩

/-- `Sound` holds after every number of steps. -/
theorem sound (s : Setup) (n : Nat) : Sound s (Run.after s n) := by
  induction n with
  | zero => exact sound_start s
  | succ n ih => exact sound_step (step_change s _) ih

end Relay

end PodTail
