import PodTail.Proofs.Relay.Position

/-!
# What reaches the client

`frames_of_first_lines`: after any number of steps the frames are those of the first lines of the
log, in the order of the log and each once, with at most one error frame, which is the last. It also
counts: the writes begun against the frames, and the `forwarded` count of `Event.relayFinished`
against the lines that were delivered.

Three invariants go into it, each with its own step lemma over `Change`:

- `Sound` (from `PodTail.Proofs.Relay.Position`) ties the frames, `Run.begun` and `State.forwarded`
  to the position in the log while the relay runs;
- `Spent` says that `Run.frames` does not grow any more. It holds behind an error frame and behind
  the end, and `spent_step` keeps it;
- `Run.Noted` says that `relayFinished` has been noted once if the relay has ended and not at all if
  it runs, with `State.forwarded` as its count. So that count, which is a field of the state, is
  what an observer of the events sees.

`Delivered` is the part of the statement that survives the end of the relay, which `Sound` does not:
`Sound.delivered` gets it from the invariant while the relay runs, and `close_delivers` takes it
through the step that ends the relay. How the count can fall short of the lines delivered, by one
and only if the relay ended in the flush of the last line, is `close_counts`.
-/

set_option autoImplicit false

namespace PodTail

namespace Relay

/-! ## Nothing comes behind an error frame

`Spent` is closed under `Change`, and no step from a spent run gives a frame. Of the constructors
that could, `Change.begins` needs a relay that reads with its token not cancelled, and
`Change.records` a write whose frame is not taken; `Spent.last` and `Spent.sent` exclude the one and
the other. -/

/-- The client gets no more frames: the relay cannot begin a write any more, and the write it may be
    in has been taken. -/
structure Spent (s : Setup) (r : Run) : Prop where
  last : r.cancelled = true ∨ r.result? ≠ none ∨ ∃ reason, r.relay.stage = .writing (.failure reason)
  sent : ∀ o, r.relay.stage = .writing o → (s.current r).Course true r.moves

theorem Spent.of_ended {s : Setup} {r : Run} {result : RelayEnd}
    (h : r.relay.stage = .ended result) : Spent s r :=
  ⟨Or.inr (Or.inl (by simp [Run.result?_eq_some.mpr h])), by simp [h]⟩

/-- A step keeps a spent run spent and gives the client nothing. -/
theorem spent_step {s : Setup} {r r' : Run} (c : Change s r r') (h : Spent s r) :
    Spent s r' ∧ r'.frames = r.frames := by
  -- Of the three alternatives of `Spent.last`, a relay that reads, rests or writes a line is left
  -- with the first, the cancelled token.
  have running : ∀ stage, r.relay.stage = stage → (∀ result, stage ≠ .ended result) →
      (∀ reason, stage ≠ .writing (.failure reason)) → r.cancelled = true := by
    rintro stage rfl ended failure
    rcases h.last with token | ended' | ⟨reason, at'⟩
    · exact token
    · exact absurd (Run.result?_eq_none.mpr ended) ended'
    · exact absurd at' (failure reason)
  cases c with
  | ended | stuck => exact ⟨h, rfl⟩
  | called | finishes | drops | fails | writtenLast | told | restedLast => exact ⟨.of_ended rfl, rfl⟩
  | waits stage =>
    exact ⟨⟨Or.inl (running _ stage (by simp) (by simp)), by simp [stage]⟩, rfl⟩
  | readerCancels stage => exact ⟨⟨Or.inl rfl, by simp [stage]⟩, rfl⟩
  | begins o stage _ token =>
    exact absurd (running _ stage (by simp) (by simp)) (by simp [token])
  | written stage _ token =>
    exact absurd (running _ stage (by simp) (by simp)) (by simp [token])
  | rested stage _ token =>
    exact absurd (running _ stage (by simp) (by simp)) (by simp [token])
  | writerCancels o stage moves =>
    refine ⟨⟨Or.inl rfl, fun o' at' => ?_⟩, rfl⟩
    exact (moves ▸ h.sent o' at').tail (by simp) (by simp)
  | lingers o stage moves =>
    refine ⟨⟨h.last, fun o' at' => ?_⟩, rfl⟩
    exact (moves ▸ h.sent o' at').tail (by simp) (by simp)
  | records o stage moves => exact absurd (moves ▸ h.sent o stage).record.1 (by simp)

/-- So the frames of a spent run are the frames of every later moment. -/
theorem spent_after {s : Setup} {n : Nat} (h : Spent s (Run.after s n)) (m : Nat) :
    Spent s (Run.after s (n + m)) ∧ (Run.after s (n + m)).frames = (Run.after s n).frames := by
  induction m with
  | zero => exact ⟨h, rfl⟩
  | succ m ih =>
    obtain ⟨spent, same⟩ := spent_step (step_change s _) ih.1
    exact ⟨spent, same.trans ih.2⟩

/-! ## The note of the end

`relayFinished` is written by `State.closing` when the relay goes from running to ended. The events
that may be noted before it in the same step (`Outgoing.notes`, `Outgoing.failureNotes`) are of
other kinds, which is what `endings_append` asks for. -/

namespace Run

/-- The ends that have been noted, each with the number of lines that were written by then. -/
def endings (r : Run) : List (Nat × RelayEnd) :=
  r.events.filterMap fun
    | .relayFinished forwarded result => some (forwarded, result)
    | _ => none

theorem endings_append {r r' : Run} {notes more : List Event}
    (events : r'.events = r.events ++ (notes ++ more)) (quiet : ∀ f e, .relayFinished f e ∉ notes) :
    r'.endings = r.endings ++ { r with events := more }.endings := by
  have none : notes.filterMap (fun
      | .relayFinished forwarded result => some (forwarded, result)
      | _ => none) = [] := by
    rw [List.filterMap_eq_nil_iff]
    intro e he
    split
    · exact absurd he (quiet _ _)
    · rfl
  rw [endings, events, List.filterMap_append, List.filterMap_append, none, List.nil_append]
  rfl

end Run

/-- The end of a run has been noted once, with the lines written, if the run has ended; and else no
    end has been noted. -/
def Run.Noted (r : Run) : Prop :=
  r.endings = (r.result?.map fun result => (r.relay.forwarded, result)).toList

theorem noted_start (s : Setup) : (Run.start s).Noted := by
  cases h : s.cancelledBefore <;>
    simp [Run.Noted, Run.start, Run.endings, Run.result?, State.start, State.enter, State.result?, h]

theorem Run.Noted.close {r : Run} (h : r.Noted) (running : r.result? = none) (result : RelayEnd)
    (forwarded : Nat) {notes : List Event} (quiet : ∀ f e, .relayFinished f e ∉ notes) :
    (r.close result forwarded notes).Noted := by
  rw [Noted, running] at h
  rw [Noted, Run.endings_append (r := r) rfl quiet, h]
  rfl

/-- A step keeps `Run.Noted`: those that end the relay do so from a run without an end, through
    `Noted.close`, and no other step notes an end. -/
theorem noted_step {s : Setup} {r r' : Run} (c : Change s r r') (h : r.Noted) : r'.Noted := by
  cases c with
  | ended | stuck => exact h
  | called pause => exact h.close pause.running _ _ (by simp)
  | finishes stage =>
    exact h.close (Run.result?_eq_none.mpr (by simp [stage])) _ _ (by simp)
  | drops o stage =>
    exact h.close (Run.result?_eq_none.mpr (by simp [stage])) _ _
      (by cases o <;> simp [Outgoing.notes])
  | fails o stage =>
    exact h.close (Run.result?_eq_none.mpr (by simp [stage])) _ _
      (by cases o <;> simp [Outgoing.failureNotes])
  | writtenLast stage | told stage | restedLast stage =>
    exact h.close (Run.result?_eq_none.mpr (by simp [stage])) _ _ (by simp)
  | begins o stage =>
    have running : r.result? = none := Run.result?_eq_none.mpr (by simp [stage])
    rw [Run.Noted, running] at h
    have events : (r.begin s o).events = r.events ++ (o.notes ++ []) := by simp [Run.begin]
    rw [Run.Noted, Run.endings_append events (by cases o <;> simp [Outgoing.notes]), h]
    rfl
  | written stage | rested stage =>
    have running : r.result? = none := Run.result?_eq_none.mpr (by simp [stage])
    rw [Run.Noted, running] at h
    exact h
  | waits | readerCancels | writerCancels | lingers | records => exact h

theorem noted (s : Setup) (n : Nat) : (Run.after s n).Noted := by
  induction n with
  | zero => exact noted_start s
  | succ n ih => exact noted_step (step_change s _) ih

/-! ## First lines, then at most one error frame

The position `i` in the log up to which lines have been delivered is `r.taken` between two writes.
In a write of a line it is the position of that line, or one more once the client has it. The count
then lags behind by one: `Level` and `Ahead` tell the two apart, and `Within.delivered` shows that
one of them holds. -/

/-- The frames are those of the lines before position `i` of the log, with or without the error
    frame for a read error that stands at `i`. Each write begun, but perhaps the last, has given a
    frame. -/
structure Delivered (s : Setup) (r : Run) (i : Nat) : Prop where
  taken : i ≤ r.taken
  openTo : s.OpenTo i
  texts : r.texts = s.lineFrames i ∨
    ∃ reason, s.source i = some (.failure reason) ∧ Spent s r ∧
      r.texts = s.lineFrames i ++ [errorFrame reason]
  le_begun : r.frames.length ≤ r.begun
  begun_le : r.begun ≤ r.frames.length + 1

/-- The client has the frame of the line that is being written, though the write is not done. -/
def Ahead (s : Setup) (r : Run) (i : Nat) : Prop :=
  ∃ text, r.relay.stage = .writing (.line text) ∧ (s.lines i).getLast? = some text ∧
    (s.current r).Course true r.moves ∧ (s.lines i).length = r.relay.forwarded + 1

/-- The client has no more than the relay has counted. -/
def Level (s : Setup) (r : Run) (i : Nat) : Prop :=
  (s.lines i).length = r.relay.forwarded ∧
    ∀ text, r.relay.stage = .writing (.line text) →
      (s.current r).Course false r.moves

theorem Run.length_texts (r : Run) : r.texts.length = r.frames.length := List.length_map ..

theorem Setup.length_lineFrames (s : Setup) (i : Nat) :
    (s.lineFrames i).length = (s.lines i).length := List.length_map ..

theorem Between.delivered {s : Setup} {r : Run} (h : Between s r) :
    Delivered s r r.taken := by
  have frames : r.frames.length = r.begun := by
    rw [← r.length_texts, h.texts, s.length_lineFrames, h.begun]
  exact ⟨Nat.le_refl _, h.openTo, Or.inl h.texts, by omega, by omega⟩

/-- Within a write. While the frame is not taken (`sent = false`) the position is that of the item
    which is being written. Once it is taken, an error frame leaves the position where it is, and a
    line moves it on by one before `State.forwarded` has counted it. -/
theorem Within.delivered {s : Setup} {r : Run} {o : Outgoing} {i : Nat} {sent : Bool}
    (h : Within s r o i sent) (stage : r.relay.stage = .writing o) :
    ∃ j, Delivered s r j ∧ (Level s r j ∨ Ahead s r j) := by
  have frames : r.frames.length = (s.lines i).length + if sent then 1 else 0 := by
    rw [← r.length_texts, h.texts, List.length_append, s.length_lineFrames]
    cases sent <;> rfl
  have begun := h.begun
  have taken := h.taken
  cases sent with
  | false =>
    have texts := h.texts
    rw [if_neg Bool.false_ne_true, List.append_nil] at texts
    refine ⟨i, ⟨by omega, h.openTo, Or.inl texts, ?_, ?_⟩, Or.inl ⟨h.forwarded.symm, ?_⟩⟩
    · simp at frames; omega
    · simp at frames; omega
    · exact fun _ _ => h.course
  | true =>
    rw [if_pos rfl] at frames
    have texts := h.texts
    rw [if_pos rfl] at texts
    cases o with
    | failure reason =>
      refine ⟨i, ⟨by omega, h.openTo, Or.inr ⟨reason, h.item, ?_, texts⟩, by omega, by omega⟩, ?_⟩
      · exact ⟨Or.inr (Or.inr ⟨reason, stage⟩), fun _ _ => h.course⟩
      · exact Or.inl ⟨h.forwarded.symm, by simp [stage]⟩
    | line text =>
      have lines : s.lines (i + 1) = s.lines i ++ [text] := Setup.lines_line h.item
      have openTo : s.OpenTo (i + 1) := by
        apply h.openTo.succ <;> simp [h.item, Outgoing.item]
      refine ⟨i + 1, ⟨by omega, openTo, Or.inl ?_, by omega, by omega⟩, Or.inr ⟨text, stage, ?_⟩⟩
      · rw [texts, Setup.lineFrames, Setup.lineFrames, lines]
        simp [Outgoing.frame]
      · refine ⟨by rw [lines]; simp, h.course, ?_⟩
        rw [lines, List.length_append, List.length_singleton, h.forwarded]

theorem Sound.delivered {s : Setup} {r : Run} (h : Sound s r) (running : r.result? = none) :
    ∃ i, Delivered s r i ∧ (Level s r i ∨ Ahead s r i) := by
  cases h with
  | reading stage at' | resting stage _ at' =>
    exact ⟨r.taken, at'.delivered, Or.inl ⟨at'.forwarded.symm, by simp [stage]⟩⟩
  | writing stage at' => exact at'.delivered stage
  | ended stage => simp [Run.result?_eq_some.mpr stage] at running

/-- The end of a relay leaves the frames as they were, so `Delivered` carries over; an error frame
    is the last one now because the relay has ended (`Spent.of_ended`). -/
theorem Delivered.close {s : Setup} {r r' : Run} {i : Nat} (h : Delivered s r i)
    (taken : r.taken ≤ r'.taken) (begun : r'.begun = r.begun) (frames : r'.frames = r.frames)
    (ended : r'.result? ≠ none) : Delivered s r' i where
  taken := Nat.le_trans h.taken taken
  openTo := h.openTo
  texts := by
    have spent : Spent s r' := by
      obtain ⟨result, hr⟩ := Option.ne_none_iff_exists'.mp ended
      exact .of_ended (Run.result?_eq_some.mp hr)
    have same : r'.texts = r.texts := by rw [Run.texts, frames, Run.texts]
    rw [same]
    rcases h.texts with texts | ⟨reason, at', _, texts⟩
    · exact Or.inl texts
    · exact Or.inr ⟨reason, at', spent, texts⟩
  le_begun := by rw [frames, begun]; exact h.le_begun
  begun_le := by rw [frames, begun]; exact h.begun_le

/-- The last phase of a write: it waits for the frame to go out, or fails in that. -/
def Flushing (s : Setup) (r : Run) : Prop :=
  r.moves ≠ [] ∧
    r.moves <:+ (s.current r).waiting .flush (s.current r).flushWait

/-- The relay ended in the flush of the last line the client has. -/
def EndedFlushing (s : Setup) (r : Run) (i : Nat) (result : RelayEnd) : Prop :=
  (result = .cancelled ∨ result = .transportFailure) ∧
    ∃ text, r.relay.stage = .writing (.line text) ∧ (s.lines i).getLast? = some text ∧ Flushing s r

/-- The `forwarded` count at the end against the lines delivered: they are equal, or the count is
    one less, and then the relay ended while the last line was being flushed (`EndedFlushing`). -/
theorem close_counts {s : Setup} {r r' : Run} {i : Nat} {result : RelayEnd} (c : Change s r r')
    (running : r.result? = none) (ended : r'.result? = some result)
    (h : Level s r i ∨ Ahead s r i) :
    (s.lines i).length = r'.relay.forwarded ∨
      (s.lines i).length = r'.relay.forwarded + 1 ∧ EndedFlushing s r i result := by
  -- In the case `Ahead` the frame is taken, so a move that is left and is no cancellation belongs
  -- to the flush (`Course.flush`).
  have flushing : ∀ {m more}, Ahead s r i → r.moves = m :: more → m ≠ .cancel →
      Flushing s r := by
    rintro m more ⟨text, _, _, course, _⟩ moves cancel
    refine ⟨by simp [moves], ?_⟩
    rw [moves] at course ⊢
    exact course.flush cancel
  cases c with
  | ended | stuck => exact absurd running (by simp [ended])
  | waits stage | readerCancels stage | begins o stage | writerCancels o stage | lingers o stage
  | records o stage | written stage | rested stage =>
    simp [Run.result?, State.result?, Run.begin, stage] at ended
  | finishes stage | drops o stage | told stage | restedLast stage =>
    -- No line is being written in these, so the count is level.
    rcases h with level | ⟨text, at', _⟩
    · exact Or.inl level.1
    · simp [stage] at at'
  | called pause =>
    obtain rfl : RelayEnd.cancelled = result := Option.some.inj ended
    rcases h with level | ahead
    · exact Or.inl level.1
    · obtain ⟨text, at', last, _, count⟩ := id ahead
      refine Or.inr ⟨count, Or.inl rfl, text, at', last, ?_⟩
      cases pause with
      | source stage | silence stage | rest stage => simp [stage] at at'
      | phase _ moves => exact flushing ahead moves (by simp)
      | hang _ moves => exact flushing ahead moves (by simp)
  | fails o stage moves =>
    rcases h with level | ahead
    · exact Or.inl level.1
    · obtain ⟨text, at', last, _, count⟩ := id ahead
      obtain rfl : o = .line text := by simpa [stage] using at'
      obtain rfl : RelayEnd.transportFailure = result := Option.some.inj ended
      exact Or.inr ⟨count, Or.inr rfl, text, at', last, flushing ahead moves (by simp)⟩
  | writtenLast stage moves =>
    -- The write is done, so its frame is taken (`Course.sent_of_nil`) and this step counts the
    -- line.
    rcases h with level | ⟨_, _, _, _, count⟩
    · exact absurd (moves ▸ level.2 _ stage).sent_of_nil (by simp)
    · exact Or.inl count

/-- The step that ends the relay keeps `Delivered`. -/
theorem close_delivers {s : Setup} {r r' : Run} {i : Nat} {result : RelayEnd} (c : Change s r r')
    (ended : r'.result? = some result) (h : Delivered s r i) : Delivered s r' i := by
  have stopped : r'.result? ≠ none := by simp [ended]
  cases c with
  | ended | stuck => exact h
  | waits stage | readerCancels stage | begins o stage | writerCancels o stage | lingers o stage
  | records o stage | written stage | rested stage =>
    simp [Run.result?, State.result?, Run.begin, stage] at ended
  | drops => exact h.close (Nat.le_succ _) rfl rfl stopped
  | called | finishes | fails | writtenLast | told | restedLast =>
    exact h.close (Nat.le_refl _) rfl rfl stopped

theorem Run.start_forwarded (s : Setup) : (Run.start s).relay.forwarded = 0 := by
  cases h : s.cancelledBefore <;> simp [Run.start, State.start, State.enter, h]

theorem delivered_start (s : Setup) : Delivered s (Run.start s) 0 :=
  ⟨Nat.le_refl _, s.openTo_zero, Or.inl rfl, Nat.le_refl _, Nat.zero_le _⟩

/-- `Delivered` and the count at the end, from the last step that found the relay running. A relay
    whose token was cancelled before it began has ended at its start, with nothing delivered. -/
theorem ended_delivered {s : Setup} {n : Nat} {result : RelayEnd}
    (ended : (Run.after s n).result? = some result) :
    ∃ i, Delivered s (Run.after s n) i ∧
      ((s.lines i).length = (Run.after s n).relay.forwarded ∨
        (s.lines i).length = (Run.after s n).relay.forwarded + 1 ∧
          ∃ m < n, Run.after s (m + 1) = Run.after s n ∧
            EndedFlushing s (Run.after s m) i result) := by
  rcases Run.last_step ended with start | ⟨m, hm, running, same⟩
  · rw [start]
    exact ⟨0, delivered_start s, Or.inl (Run.start_forwarded s).symm⟩
  · obtain ⟨i, h, counted⟩ := (sound s m).delivered running
    have c : Change s (Run.after s m) (Run.after s n) := same ▸ step_change s _
    refine ⟨i, close_delivers c ended h, (close_counts c running ended counted).imp_right ?_⟩
    exact fun ⟨count, flushing⟩ => ⟨count, m, hm, same, flushing⟩

/-- **The frames are those of the first lines of the log.** After any number `n` of steps the client
    has the frames of the lines before some position `i`, in the order of the log and each once, and
    behind them at most one error frame. That frame is for the read error at `i` and is the last of
    the whole run. Each write begun, but perhaps the last, has given a frame.

    If the relay has ended, `relayFinished` has been noted once, with a count `f`. That is the
    number of lines delivered, or one less: then the relay was cancelled, or its write failed,
    during the flush of the last line, after the client had taken it and before the relay counted
    it. -/
theorem frames_of_first_lines (s : Setup) (n : Nat) :
    let r := Run.after s n
    ∃ i, i ≤ r.taken ∧ s.OpenTo i ∧
      (r.texts = s.lineFrames i ∨
        ∃ reason, s.source i = some (.failure reason) ∧
          r.texts = s.lineFrames i ++ [errorFrame reason] ∧
          ∀ m, n ≤ m → (Run.after s m).frames = r.frames) ∧
      (r.frames.length ≤ r.begun ∧ r.begun ≤ r.frames.length + 1) ∧
      ∀ result, r.result? = some result →
        ∃ f, r.endings = [(f, result)] ∧ f ≤ (s.lines i).length ∧ (s.lines i).length ≤ f + 1 ∧
          ((s.lines i).length = f + 1 →
            ∃ m < n, Run.after s (m + 1) = r ∧ EndedFlushing s (Run.after s m) i result) := by
  intro r
  -- `Spent` in `Delivered.texts` says that the error frame is the last one after every later step.
  have last : ∀ {i}, Delivered s r i → r.texts = s.lineFrames i ∨
      ∃ reason, s.source i = some (.failure reason) ∧
        r.texts = s.lineFrames i ++ [errorFrame reason] ∧
        ∀ m, n ≤ m → (Run.after s m).frames = r.frames := by
    refine fun h => h.texts.imp_right fun ⟨reason, at', spent, eq⟩ => ⟨reason, at', eq, ?_⟩
    intro m hm
    obtain ⟨d, rfl⟩ := Nat.exists_eq_add_of_le hm
    exact (spent_after spent d).2
  cases ended : r.result? with
  | none =>
    obtain ⟨i, h, _⟩ := (sound s n).delivered ended
    exact ⟨i, h.taken, h.openTo, last h, ⟨h.le_begun, h.begun_le⟩, by simp⟩
  | some result =>
    obtain ⟨i, h, counts⟩ := ended_delivered ended
    have endings : r.endings = [(r.relay.forwarded, result)] := by
      have h := noted s n
      rw [Run.Noted, ended] at h
      exact h
    refine ⟨i, h.taken, h.openTo, last h, ⟨h.le_begun, h.begun_le⟩, fun _ eq => ?_⟩
    obtain rfl := Option.some.inj eq
    refine ⟨r.relay.forwarded, endings, ?_⟩
    rcases counts with count | ⟨count, flushing⟩
    · change _ = r.relay.forwarded at count
      exact ⟨by omega, by omega, fun _ => by omega⟩
    · change _ = r.relay.forwarded + 1 at count
      exact ⟨by omega, by omega, fun _ => flushing⟩

end Relay

end PodTail
