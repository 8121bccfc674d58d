import PodTail.Proofs.Relay.Ends
import PodTail.Proofs.Relay.Spacing

/-!
# One line at a time

`takes_one_line_at_a_time`: a relay has no buffer. It takes a line from its log, writes it, rests,
and only then asks for the next step, so at no moment has it taken more than one line beyond those
it has written. A slow client keeps the log waiting, and a relay that ends leaves one line behind at
most.

There are two counts of what has been delivered, and the theorem is about both. A line is *written*
when its write is done; `Setup.written` counts that by looking at each step, independently of
`State.forwarded`, and `written_eq` shows that the two agree. The client may have the *frame* of a
line before its write is done. So the bound on what is taken goes by the lines written
(`taken_step`, `taken_le`), and what is left behind goes by the frames (`Lacks`): `Sound.lacks`
while the relay runs, `lacks_of_ending` through the step that ends it.
-/

set_option autoImplicit false

namespace PodTail

namespace Relay

variable {s : Setup} {r r' : Run} {n : Nat}

/-! ## Lines taken and lines written -/

/-- The next step finds that a line is written. -/
def Run.wrote (r : Run) : Bool :=
  match r.relay.stage, r.moves with
  | .writing (.line _), [] => true
  | _, _ => false

/-- How many lines the first `n` steps have found to be written. -/
def Setup.written (s : Setup) (n : Nat) : Nat :=
  (List.range n).countP fun m => (Run.after s m).wrote

/-- `State.forwarded` goes up by one where the step finds a line written, and stays otherwise. -/
theorem forwarded_step (c : Change s r r') :
    r'.relay.forwarded = r.relay.forwarded + r.wrote.toNat := by
  cases c with
  | ended stage | waits stage | readerCancels stage | finishes stage | begins _ stage | drops _ stage
  | rested stage | restedLast stage =>
    simp [Run.wrote, Run.close, Run.begin, stage]
  | writerCancels o stage moves | lingers o stage moves | records o stage moves
  | fails o stage moves =>
    simp [Run.wrote, Run.close, stage, moves]
  | written stage moves | writtenLast stage moves | told stage moves =>
    simp [Run.wrote, Run.close, stage, moves]
  | stuck pause =>
    cases pause with
    | silence stage => simp [Run.wrote, stage]
    | hang stage moves => simp [Run.wrote, stage, moves]
  | called pause =>
    cases pause with
    | source stage | silence stage | rest stage => simp [Run.wrote, Run.close, stage]
    | phase stage moves | hang stage moves => simp [Run.wrote, Run.close, stage, moves]

/-- What the steps have found to be written is what the relay has counted. -/
theorem written_eq (s : Setup) (n : Nat) : s.written n = (Run.after s n).relay.forwarded := by
  induction n with
  | zero => exact (Run.start_forwarded s).symm
  | succ n ih =>
    rw [Run.after, forwarded_step (step_change s _), ← ih, Setup.written, List.range_succ,
      List.countP_append, List.countP_singleton]
    cases (Run.after s n).wrote <;> rfl

theorem Setup.length_lines_succ (s : Setup) (i : Nat) :
    (s.lines (i + 1)).length ≤ (s.lines i).length + 1 := by
  rw [Setup.lines]
  split
  · exact Nat.le_of_eq List.length_append
  · exact Nat.le_succ _

/-- A step keeps the bound on the lines taken. A relay that reads has none taken that is not written
    (`Between.forwarded`), so one more is within the bound; no other step takes a line. -/
theorem taken_step (c : Change s r r') (sound : Sound s r)
    (h : (s.lines r.taken).length ≤ r.relay.forwarded + 1) :
    (s.lines r'.taken).length ≤ r'.relay.forwarded + 1 := by
  -- What a relay that reads has taken, with the step of the log that it takes next.
  have more (stage : r.relay.stage = .reading) :
      (s.lines (r.taken + 1)).length ≤ r.relay.forwarded + 1 := by
    rw [(sound.between stage).forwarded]
    exact s.length_lines_succ r.taken
  cases c with
  | ended | stuck | called | finishes | writerCancels | lingers | records | fails | told | rested
  | restedLast => exact h
  | waits stage | readerCancels stage | begins _ stage | drops _ stage => exact more stage
  | written | writtenLast => exact Nat.le_succ_of_le h

theorem taken_le (s : Setup) (n : Nat) :
    (s.lines (Run.after s n).taken).length ≤ s.written n + 1 := by
  rw [written_eq]
  induction n with
  | zero => exact Nat.zero_le _
  | succ n ih => exact taken_step (step_change s _) (sound s n) ih

/-- Only a relay that reads takes anything. -/
theorem taken_of_not_reading (c : Change s r r') (busy : r.relay.stage ≠ .reading) :
    r'.taken = r.taken := by
  cases c with
  | waits stage | readerCancels stage | begins _ stage | drops _ stage => exact absurd stage busy
  | ended | stuck | called | finishes | writerCancels | lingers | records | fails | written
  | writtenLast | told | rested | restedLast => rfl

/-! ## Lines taken and frames

`Lacks s r missing` splits the lines taken into those whose frames the client has and the rest,
`missing`. The lemmas bound the length of `missing` by one, stage by stage as in `Sound`. -/

/-- Of the lines that the relay has taken the client has the frames of all but `missing`, the last
    of them; and behind these frames maybe the one for a read error, if that was taken last. -/
def Lacks (s : Setup) (r : Run) (missing : List String) : Prop :=
  ∃ got, s.lines r.taken = got ++ missing ∧
    (r.texts = got.map s.target.frame ∨
      ∃ reason, s.source (r.taken - 1) = some (.failure reason) ∧
        r.texts = got.map s.target.frame ++ [errorFrame reason])

theorem Lacks.same {missing : List String} (h : Lacks s r missing) (taken : r'.taken = r.taken)
    (frames : r'.frames = r.frames) : Lacks s r' missing := by
  unfold Lacks Run.texts
  rw [taken, frames]
  exact h

theorem Between.lacks (h : Between s r) : Lacks s r [] :=
  ⟨s.lines r.taken, (List.append_nil _).symm, Or.inl h.texts⟩

/-- What has just been read is missing if it is a line. -/
theorem Between.lacks_next {o : Outgoing} (h : Between s r) (next : s.source r.taken = some o.item)
    (taken : r'.taken = r.taken + 1) (frames : r'.frames = r.frames) :
    ∃ missing, Lacks s r' missing ∧ missing.length ≤ 1 ∧ (missing ≠ [] → ∃ text, o = .line text) := by
  have texts : r'.texts = s.lineFrames r.taken := by
    rw [Run.texts, frames]
    exact h.texts
  cases o with
  | line text =>
    refine ⟨[text], ⟨s.lines r.taken, ?_, Or.inl texts⟩, Nat.le_refl _, fun _ => ⟨text, rfl⟩⟩
    rw [taken, Setup.lines_line next]
  | failure reason =>
    refine ⟨[], ⟨s.lines r.taken, ?_, Or.inl texts⟩, Nat.zero_le _, fun some => absurd rfl some⟩
    rw [taken, Setup.lines_other (by simp [next, Outgoing.item]), List.append_nil]

/-- Within a write nothing is missing but the line that is being written, and not even that once its
    frame is taken. -/
theorem Within.lacks {o : Outgoing} {i : Nat} {sent : Bool} (h : Within s r o i sent) :
    ∃ missing, Lacks s r missing ∧ missing.length ≤ 1 ∧ (missing ≠ [] → ∃ text, o = .line text) := by
  have texts := h.texts
  have taken := h.taken
  cases o with
  | line text =>
    have lines : s.lines r.taken = s.lines i ++ [text] := taken ▸ Setup.lines_line h.item
    -- Whether this line is missing is what `sent` says.
    cases sent with
    | false =>
      rw [if_neg Bool.false_ne_true, List.append_nil] at texts
      exact ⟨[text], ⟨s.lines i, lines, Or.inl texts⟩, Nat.le_refl _, fun _ => ⟨text, rfl⟩⟩
    | true =>
      rw [if_pos rfl] at texts
      refine ⟨[], ⟨s.lines i ++ [text], ?_, Or.inl ?_⟩, Nat.zero_le _, fun some => absurd rfl some⟩
      · rw [lines, List.append_nil]
      · rw [texts, List.map_append]
        rfl
  | failure reason =>
    have lines : s.lines r.taken = s.lines i ++ [] := by
      rw [taken, Setup.lines_other (by simp [h.item, Outgoing.item]), List.append_nil]
    refine ⟨[], ⟨s.lines i, lines, ?_⟩, Nat.zero_le _, fun some => absurd rfl some⟩
    cases sent with
    | false =>
      rw [if_neg Bool.false_ne_true, List.append_nil] at texts
      exact Or.inl texts
    | true =>
      rw [if_pos rfl] at texts
      exact Or.inr ⟨reason, by rw [taken]; exact h.item, texts⟩

/-- What a running relay lacks is being written. -/
theorem Sound.lacks (h : Sound s r) (running : r.result? = none) :
    ∃ missing, Lacks s r missing ∧ missing.length ≤ 1 ∧
      (missing ≠ [] → ∃ text, r.relay.stage = .writing (.line text)) := by
  cases h with
  | reading _ at' | resting _ _ at' =>
    exact ⟨[], at'.lacks, Nat.zero_le _, fun some => absurd rfl some⟩
  | writing stage at' =>
    obtain ⟨missing, lacks, short, line⟩ := at'.lacks
    refine ⟨missing, lacks, short, fun some => ?_⟩
    obtain ⟨text, rfl⟩ := line some
    exact ⟨text, stage⟩
  | ended stage => simp [Run.result?_eq_some.mpr stage] at running

/-- The ends that may leave a line behind. -/
def MayLack (result : RelayEnd) : Prop :=
  result = .cancelled ∨ result = .transportFailure

/-- A relay that ends in the midst of a line's write has been called off, or the write has failed.
    -/
theorem mayLack_of_writing {text : String} {result : RelayEnd} (c : Change s r r')
    (stage : r.relay.stage = .writing (.line text)) (running : r.result? = none)
    (ended : r'.result? = some result) : MayLack result := by
  cases c with
  | ended | stuck => simp [running] at ended
  | called | writtenLast => exact Or.inl (Option.some.inj ended).symm
  | fails o stage' =>
    obtain rfl : Outgoing.line text = o := by simpa [stage] using stage'
    exact Or.inr (Option.some.inj ended).symm
  | waits stage' | readerCancels stage' | finishes stage' | begins _ stage' | drops _ stage'
  | told stage' | rested stage' | restedLast stage' => simp [stage] at stage'
  | writerCancels _ stage' | lingers _ stage' | records _ stage' | written stage' =>
    simp [Run.result?, State.result?, stage'] at ended

/-- Through the step that ends the relay. What was missing before is missing still, and
    `Change.drops` adds the line that it has taken and will not write. -/
theorem lacks_of_ending {result : RelayEnd} (c : Change s r r') (sound : Sound s r)
    (running : r.result? = none) (ended : r'.result? = some result) :
    ∃ missing, Lacks s r' missing ∧ missing.length ≤ 1 ∧ (missing ≠ [] → MayLack result) := by
  obtain ⟨missing, lacks, short, writing⟩ := sound.lacks running
  have left (taken : r'.taken = r.taken) (frames : r'.frames = r.frames) :
      ∃ missing, Lacks s r' missing ∧ missing.length ≤ 1 ∧ (missing ≠ [] → MayLack result) := by
    refine ⟨missing, lacks.same taken frames, short, fun some => ?_⟩
    obtain ⟨text, stage⟩ := writing some
    exact mayLack_of_writing c stage running ended
  cases c with
  | drops o stage next =>
    -- The only end that takes something: `Between.lacks_next` for what has just been read.
    let dropped := ({ r with taken := r.taken + 1 } : Run).close .cancelled r.relay.forwarded o.notes
    obtain ⟨missing, lacks, short, _⟩ :
        ∃ missing, Lacks s dropped missing ∧ missing.length ≤ 1 ∧ _ :=
      (sound.between stage).lacks_next next rfl rfl
    exact ⟨missing, lacks, short, fun _ => Or.inl (Option.some.inj ended).symm⟩
  | ended | stuck => simp [running] at ended
  | called | finishes | fails | writtenLast | told | restedLast => exact left rfl rfl
  | waits stage | readerCancels stage | begins o stage | writerCancels o stage | lingers o stage
  | records o stage | written stage | rested stage =>
    simp [Run.result?, State.result?, Run.begin, stage] at ended

theorem lacks_of_ended {result : RelayEnd} (ended : (Run.after s n).result? = some result) :
    ∃ missing, Lacks s (Run.after s n) missing ∧ missing.length ≤ 1 ∧
      (missing ≠ [] → MayLack result) := by
  rcases last_change ended with start | ⟨m, _, running, c⟩
  · rw [start]
    exact ⟨[], ⟨[], rfl, Or.inl rfl⟩, Nat.zero_le _, fun some => absurd rfl some⟩
  · exact lacks_of_ending c (sound s m) running ended

/-! ## One line at a time -/

/-- **A relay takes one line at a time.** After any number of steps

    - it has taken at most one line beyond those whose writes are done;
    - the next step takes something from the log only if the relay reads;
    - if it reads, all lines taken are written, the last write is done, and the rest after it is
      over;
    - the client has the frames of all lines taken but one at most, and lacks that one only while it
      is being written, or because the relay was cancelled or the write of a line has failed. -/
theorem takes_one_line_at_a_time (s : Setup) (n : Nat) :
    let r := Run.after s n
    (s.lines r.taken).length ≤ s.written n + 1 ∧
      ((Run.after s (n + 1)).taken ≠ r.taken → r.relay.stage = .reading) ∧
      (r.relay.stage = .reading → (s.lines r.taken).length = s.written n ∧ RestOver s n) ∧
      ∃ missing, Lacks s r missing ∧ missing.length ≤ 1 ∧
        (missing ≠ [] → (∃ text, r.relay.stage = .writing (.line text)) ∨
          r.result? = some .cancelled ∨ r.result? = some .transportFailure) := by
  intro r
  refine ⟨taken_le s n, ?_, ?_, ?_⟩
  · intro takes
    exact Decidable.byContradiction fun busy =>
      takes (taken_of_not_reading (step_change s r) busy)
  · intro reading
    refine ⟨?_, restOver (Or.inl reading) (Or.inl reading)⟩
    rw [written_eq]
    exact ((sound s n).between reading).forwarded.symm
  · cases ended : r.result? with
    | none =>
      obtain ⟨missing, lacks, short, writing⟩ := (sound s n).lacks ended
      exact ⟨missing, lacks, short, fun some => Or.inl (writing some)⟩
    | some result =>
      obtain ⟨missing, lacks, short, mayLack⟩ := lacks_of_ended ended
      refine ⟨missing, lacks, short, fun some => Or.inr ?_⟩
      exact (mayLack some).imp (congrArg Option.some) (congrArg Option.some)

end Relay

end PodTail
