import PodTail.Relay.Run

/-!
# What one step of a run can do

`Run.step` is a function with a `match` in every branch, and every invariant of a run would have to
open all of them again. They are opened once, here. `Change s r r'` is the inversion of `Run.step`:
one constructor for each of the seventeen things that a step can make of a run `r`, with the guard
under which it does so. The two directions are

- `step_change`: `Change s r (Run.step s r)`, so there are no others. An invariant is preserved by a
  step if it is preserved along each constructor, and that is how all of them are proved;
- `Change.eq_step`: `Change s r r'` implies `r' = Run.step s r`, so the guards exclude each other.
  Where a proof has to *make* a step (progress, termination, two runs side by side), it names the
  constructor whose guard it can show.

Six of the constructors are about `Run.wait`. Which waits there are (`Pause`) is kept apart from how
a wait ends (`Setup.wake_cases`), since the three ends are the same for every wait.
-/

set_option autoImplicit false

namespace PodTail

namespace Relay

/-! ## Waiting

`Setup.wake` decides how a wait ends by comparing three times. `Undisturbed` and `CalledOff` are the
two conditions that a proof can work with, `Undisturbed.wake` and `CalledOff.wake` evaluate
`Setup.wake` under them, and `Setup.wake_cases` says that besides these only a wait without an end
is left. -/

/-- How long the wait is that a run is in: so many milliseconds, or `none`, for ever. -/
inductive Pause (s : Setup) (r : Run) : Option Nat → Prop where
  | source {ms : Nat} (stage : r.relay.stage = .reading)
      (next : s.source r.taken = some (.wait ms)) : Pause s r (some ms)
  | silence (stage : r.relay.stage = .reading)
      (next : s.source r.taken = some .silence) : Pause s r none
  | phase {o : Outgoing} {ms : Nat} {more : List Move} (stage : r.relay.stage = .writing o)
      (moves : r.moves = .wait ms :: more) : Pause s r (some ms)
  | hang {o : Outgoing} {more : List Move} (stage : r.relay.stage = .writing o)
      (moves : r.moves = .hang :: more) : Pause s r none
  | rest (stage : r.relay.stage = .resting) : Pause s r (some s.throttle)

/-- Nobody calls the relay off before `ms` have passed. A wait of no length is over before anybody
    can. -/
def Undisturbed (s : Setup) (r : Run) (ms : Nat) : Prop :=
  ms = 0 ∨ r.cancelled = false ∧ ∀ t, s.cancelAt = some t → r.now + ms < t

/-- A wait of `ms`, or for ever, is called off at the time `t`: at once where the token is cancelled
    already, and else when somebody outside cancels it. -/
def CalledOff (s : Setup) (r : Run) (ms? : Option Nat) (t : Nat) : Prop :=
  ms? ≠ some 0 ∧
    (r.cancelled = true ∧ t = r.now ∨
      r.cancelled = false ∧ ∃ u, s.cancelAt = some u ∧ t = max r.now u ∧
        ∀ ms, ms? = some ms → u ≤ r.now + ms)

theorem Undisturbed.zero_of_cancelled {s : Setup} {r : Run} {ms : Nat} (h : Undisturbed s r ms)
    (token : r.cancelled = true) : ms = 0 := by
  rcases h with zero | ⟨token', _⟩
  · exact zero
  · simp [token'] at token

theorem CalledOff.now_of_cancelled {s : Setup} {r : Run} {ms? : Option Nat} {t : Nat}
    (h : CalledOff s r ms? t) (token : r.cancelled = true) : t = r.now := by
  obtain ⟨_, ⟨_, same⟩ | ⟨token', _⟩⟩ := h
  · exact same
  · simp [token'] at token

/-- Under `Undisturbed` a wait of `ms` ends as `Wake.over`, at its full length. -/
theorem Undisturbed.wake {s : Setup} {r : Run} {ms : Nat} (h : Undisturbed s r ms) :
    s.wake r.now r.cancelled (some (r.now + ms)) = .over (r.now + ms) := by
  rcases h with rfl | ⟨token, late⟩
  · simp [Setup.wake]
  · cases outside : s.cancelAt with
    | none => simp [Setup.wake, token, outside]
    | some t => simp [Setup.wake, token, outside, Nat.not_le.mpr (late t outside)]

/-- Under `CalledOff` a wait ends as `Wake.called`, at the time that `CalledOff` names. -/
theorem CalledOff.wake {s : Setup} {r : Run} {ms? : Option Nat} {t : Nat} (h : CalledOff s r ms? t) :
    s.wake r.now r.cancelled (ms?.map (r.now + ·)) = .called t := by
  obtain ⟨some, ⟨token, rfl⟩ | ⟨token, u, outside, rfl, soon⟩⟩ := h
  · cases ms? with
    | none => simp [Setup.wake, token]
    | some ms =>
      have long : ms ≠ 0 := by simpa using some
      simp [Setup.wake, token, long]
  · cases ms? with
    | none => simp [Setup.wake, token, outside]
    | some ms =>
      have long : ms ≠ 0 := by simpa using some
      simp [Setup.wake, token, outside, long, soon ms rfl]

/-- The three ends of a wait, with what each of them needs. -/
theorem Setup.wake_cases (s : Setup) (r : Run) (ms? : Option Nat) :
    (∃ ms, ms? = some ms ∧ Undisturbed s r ms ∧
      s.wake r.now r.cancelled (ms?.map (r.now + ·)) = .over (r.now + ms)) ∨
    (∃ t, CalledOff s r ms? t ∧
      s.wake r.now r.cancelled (ms?.map (r.now + ·)) = .called t) ∨
    (ms? = none ∧ r.cancelled = false ∧ s.cancelAt = none ∧
      s.wake r.now r.cancelled (ms?.map (r.now + ·)) = .never) := by
  cases ms? with
  | none =>
    -- A wait without an end is never over: it is called off, or it stays.
    refine Or.inr ?_
    cases token : r.cancelled with
    | true =>
      have off : CalledOff s r none r.now := ⟨by simp, Or.inl ⟨token, rfl⟩⟩
      exact Or.inl ⟨_, off, token ▸ off.wake⟩
    | false =>
      cases outside : s.cancelAt with
      | none => exact Or.inr ⟨rfl, rfl, rfl, by simp [Setup.wake, outside]⟩
      | some u =>
        have off : CalledOff s r none (max r.now u) :=
          ⟨by simp, Or.inr ⟨token, u, outside, rfl, by simp⟩⟩
        exact Or.inl ⟨_, off, token ▸ off.wake⟩
  | some ms =>
    by_cases quiet : Undisturbed s r ms
    · exact Or.inl ⟨ms, rfl, quiet, quiet.wake⟩
    · obtain ⟨long, disturbed⟩ := not_or.mp quiet
      refine Or.inr (Or.inl ?_)
      cases token : r.cancelled with
      | true =>
        have off : CalledOff s r (some ms) r.now := ⟨by simpa using long, Or.inl ⟨token, rfl⟩⟩
        exact ⟨_, off, token ▸ off.wake⟩
      | false =>
        -- Nobody but somebody outside can disturb a wait, and not later than its end.
        obtain ⟨u, outside, soon⟩ : ∃ u, s.cancelAt = some u ∧ u ≤ r.now + ms := by
          simpa [token] using disturbed
        have off : CalledOff s r (some ms) (max r.now u) :=
          ⟨by simpa using long, Or.inr ⟨token, u, outside, rfl, by simpa using soon⟩⟩
        exact ⟨_, off, token ▸ off.wake⟩

/-! ## What changes

`Run.close` and `Run.begin` are the two changes that several constructors share: the end of the
relay and the beginning of a write. `Outgoing.item`, `Outgoing.notes`, `Outgoing.failed` and
`Outgoing.failureNotes` say how a line and a read error differ, so that one constructor serves for
both. -/

/-- What stands in the log for a write of `o`. -/
def Outgoing.item : Outgoing → Feed.Step
  | .line text => .line text
  | .failure reason => .failure reason

/-- What is noted when `o` has been read. -/
def Outgoing.notes : Outgoing → List Event
  | .line _ => []
  | .failure reason => [.readFailed reason]

/-- The end of a relay whose write of `o` has failed. -/
def Outgoing.failed : Outgoing → RelayEnd
  | .line _ => .transportFailure
  | .failure _ => .readError

/-- What is noted when a write of `o` has failed. -/
def Outgoing.failureNotes (reason : String) : Outgoing → List Event
  | .line _ => [.writeFailed reason]
  | .failure _ => []

namespace Run

/-- The run whose relay ends, having written `forwarded` lines. -/
def close (r : Run) (result : RelayEnd) (forwarded : Nat) (notes : List Event) : Run :=
  { r with
    relay := ⟨.ended result, forwarded⟩
    moves := []
    events := r.events ++ (notes ++ [.relayFinished forwarded result]) }

/-- The run whose relay begins to write what it has just read. -/
def begin (s : Setup) (r : Run) (o : Outgoing) : Run :=
  { r with
    relay := ⟨.writing o, r.relay.forwarded⟩
    taken := r.taken + 1
    begun := r.begun + 1
    moves := (s.plan r.begun).moves
    events := r.events ++ o.notes }

end Run

/-- What one step can make of a run. -/
inductive Change (s : Setup) (r : Run) : Run → Prop where
  /-- The relay has ended. -/
  | ended {result : RelayEnd} (stage : r.relay.stage = .ended result) : Change s r r
  /-- The relay waits for ever, and nobody is there to call it off. -/
  | stuck (pause : Pause s r none) (token : r.cancelled = false)
      (outside : s.cancelAt = none) : Change s r r
  /-- The relay is called off in the midst of a wait. -/
  | called {ms? : Option Nat} {t : Nat} (pause : Pause s r ms?) (off : CalledOff s r ms? t) :
      Change s r ({ r with now := t, cancelled := true }.close .cancelled r.relay.forwarded [])
  /-- The log lets the relay wait. -/
  | waits {ms : Nat} (stage : r.relay.stage = .reading)
      (next : s.source r.taken = some (.wait ms)) (quiet : Undisturbed s r ms) :
      Change s r { r with now := r.now + ms, taken := r.taken + 1 }
  /-- The token is cancelled while the log is read. -/
  | readerCancels (stage : r.relay.stage = .reading)
      (next : s.source r.taken = some .cancel) :
      Change s r { r with taken := r.taken + 1, cancelled := true }
  /-- The log ends. -/
  | finishes (stage : r.relay.stage = .reading) (next : s.source r.taken = none) :
      Change s r (r.close .exhausted r.relay.forwarded [])
  /-- A write begins. -/
  | begins (o : Outgoing) (stage : r.relay.stage = .reading)
      (next : s.source r.taken = some o.item) (token : r.cancelled = false) :
      Change s r (r.begin s o)
  /-- Something has been read, but the token was cancelled meanwhile. -/
  | drops (o : Outgoing) (stage : r.relay.stage = .reading)
      (next : s.source r.taken = some o.item) (token : r.cancelled = true) :
      Change s r ({ r with taken := r.taken + 1 }.close .cancelled r.relay.forwarded o.notes)
  /-- The token is cancelled in the course of a write. -/
  | writerCancels (o : Outgoing) {more : List Move} (stage : r.relay.stage = .writing o)
      (moves : r.moves = .cancel :: more) : Change s r { r with moves := more, cancelled := true }
  /-- A phase of a write takes its time. -/
  | lingers (o : Outgoing) {ms : Nat} {more : List Move} (stage : r.relay.stage = .writing o)
      (moves : r.moves = .wait ms :: more) (quiet : Undisturbed s r ms) :
      Change s r { r with now := r.now + ms, moves := more }
  /-- The client takes a frame. -/
  | records (o : Outgoing) {more : List Move} (stage : r.relay.stage = .writing o)
      (moves : r.moves = .record :: more) :
      Change s r { r with moves := more, frames := r.frames ++ [(r.now, o.frame s.target)] }
  /-- A write fails. -/
  | fails (o : Outgoing) {reason : String} {more : List Move} (stage : r.relay.stage = .writing o)
      (moves : r.moves = .fail reason :: more) :
      Change s r (r.close o.failed r.relay.forwarded (o.failureNotes reason))
  /-- A line is written, and the relay rests. -/
  | written {text : String} (stage : r.relay.stage = .writing (.line text)) (moves : r.moves = [])
      (token : r.cancelled = false) :
      Change s r { r with relay := ⟨.resting, r.relay.forwarded + 1⟩ }
  /-- A line is written, but the token was cancelled meanwhile. -/
  | writtenLast {text : String} (stage : r.relay.stage = .writing (.line text))
      (moves : r.moves = []) (token : r.cancelled = true) :
      Change s r (r.close .cancelled (r.relay.forwarded + 1) [])
  /-- An error frame is written. -/
  | told {reason : String} (stage : r.relay.stage = .writing (.failure reason))
      (moves : r.moves = []) : Change s r (r.close .readError r.relay.forwarded [])
  /-- The rest is over. -/
  | rested (stage : r.relay.stage = .resting) (quiet : Undisturbed s r s.throttle)
      (token : r.cancelled = false) :
      Change s r
        { r with now := r.now + s.throttle, relay := ⟨.reading, r.relay.forwarded⟩, moves := [] }
  /-- The rest is over, but the token is cancelled. -/
  | restedLast (stage : r.relay.stage = .resting) (quiet : Undisturbed s r s.throttle)
      (token : r.cancelled = true) :
      Change s r ({ r with now := r.now + s.throttle }.close .cancelled r.relay.forwarded [])

/-! ## Every step is one of these

One lemma for each function that `Run.step` calls: `read_change`, `write_change` and `rest_change`.
What they share is `Run.take`. An arm that ends the relay closes the run (`take_close`), one that
only moves it on changes nothing but the stage (`take_move`), and `take_cancelled` is the first of
these for the arm that every wait may end with. -/

theorem Pause.running {s : Setup} {r : Run} {ms? : Option Nat} (h : Pause s r ms?) :
    r.result? = none := by
  cases h with
  | source stage | silence stage | phase stage | hang stage | rest stage =>
    simp [Run.result?, State.result?, stage]

namespace Run

variable {s : Setup} {r : Run}

/-- An arm that ends the relay closes the run. -/
theorem take_close {arm : Arm} {result : RelayEnd} {forwarded : Nat} (running : r.result? = none)
    (next : r.relay.next r.cancelled arm = ⟨.ended result, forwarded⟩) :
    take s arm r = r.close result forwarded (r.relay.notes arm) := by
  have before : r.relay.result? = none := running
  have closing : r.relay.closing ⟨.ended result, forwarded⟩ = [.relayFinished forwarded result] := by
    rw [State.closing, before]
    rfl
  simp [take, State.take, next, close, closing]

/-- An arm that neither ends the relay nor begins a write only moves the relay on. -/
theorem take_move {arm : Arm} {stage : Stage} {forwarded : Nat}
    (next : r.relay.next r.cancelled arm = ⟨stage, forwarded⟩) (notes : r.relay.notes arm = [])
    (quiet : stage = .reading ∨ stage = .resting) :
    take s arm r = { r with relay := ⟨stage, forwarded⟩, moves := [] } := by
  rcases quiet with rfl | rfl <;> simp [take, State.take, next, notes, State.closing, State.result?]

end Run

-- From here on the arm is known, and `simp` looks up what follows on it.
attribute [local simp] State.result? State.next State.enter State.notes State.closing State.take
  Run.result? Run.take

namespace Run

variable {s : Setup} {r : Run}

theorem take_cancelled (running : r.result? = none) :
    take s .cancelled r = r.close .cancelled r.relay.forwarded [] := by
  -- `State.next` answers this arm in the same way at every stage, so that `take_close` applies.
  have next : r.relay.next r.cancelled .cancelled = ⟨.ended .cancelled, r.relay.forwarded⟩ ∧
      r.relay.notes .cancelled = [] := by
    cases h : r.relay.stage with
    | ended result => simp [h] at running
    | reading | resting => simp [h]
    | writing o => cases o <;> simp [h]
  rw [take_close running next.1, next.2]

/-- What `Run.wait` makes of a run, in the three cases of `Setup.wake_cases`. -/
theorem wait_cases (s : Setup) (r : Run) (ms? : Option Nat) (running : r.result? = none)
    (after : Run → Run) :
    (∃ ms, ms? = some ms ∧ Undisturbed s r ms ∧
      wait s (ms?.map (r.now + ·)) r after = after { r with now := r.now + ms }) ∨
    (∃ t, CalledOff s r ms? t ∧ wait s (ms?.map (r.now + ·)) r after =
      { r with now := t, cancelled := true }.close .cancelled r.relay.forwarded []) ∨
    (ms? = none ∧ r.cancelled = false ∧ s.cancelAt = none ∧
      wait s (ms?.map (r.now + ·)) r after = r) := by
  rcases s.wake_cases r ms? with ⟨ms, hms, quiet, wake⟩ | ⟨t, off, wake⟩ | ⟨hms, hc, ha, wake⟩
  · exact Or.inl ⟨ms, hms, quiet, by simp only [wait, wake]⟩
  · refine Or.inr (Or.inl ⟨t, off, ?_⟩)
    simp only [wait, wake]
    exact take_cancelled running
  · exact Or.inr (Or.inr ⟨hms, hc, ha, by simp only [wait, wake]⟩)

/-- A step in a wait: it is over and `after` follows, or it changes the run as any wait does. -/
theorem wait_change {ms? : Option Nat} (pause : Pause s r ms?) (after : Run → Run)
    (done : ∀ ms, ms? = some ms → Undisturbed s r ms →
      Change s r (after { r with now := r.now + ms })) :
    Change s r (wait s (ms?.map (r.now + ·)) r after) := by
  rcases wait_cases s r ms? pause.running after with
    ⟨ms, hms, quiet, eq⟩ | ⟨t, off, eq⟩ | ⟨rfl, token, outside, eq⟩
  · rw [eq]
    exact done ms hms quiet
  · rw [eq]
    exact .called pause off
  · rw [eq]
    exact .stuck pause token outside

/-- A line or a read error that is taken from the log begins a write, unless the token is cancelled:
    then it is dropped, since `State.enter` looks at the token first. -/
theorem read_item (o : Outgoing) (stage : r.relay.stage = .reading)
    (next : s.source r.taken = some o.item) : Change s r (read s r) := by
  cases token : r.cancelled with
  | true =>
    have eq : read s r =
        { r with taken := r.taken + 1 }.close .cancelled r.relay.forwarded o.notes := by
      cases o <;>
        simp [read, next, Outgoing.item, Outgoing.notes, close, stage, token]
    exact eq ▸ .drops o stage next token
  | false =>
    have eq : read s r = r.begin s o := by
      cases o <;>
        simp [read, next, Outgoing.item, Outgoing.notes, begin, stage, token]
    exact eq ▸ .begins o stage next token

theorem read_change (stage : r.relay.stage = .reading) : Change s r (read s r) := by
  have running : r.result? = none := by simp [stage]
  match next : s.source r.taken with
  | none =>
    have eq : read s r = take s (.item .finish) r := by simp [read, next]
    have last : r.relay.next r.cancelled (.item .finish) =
        ⟨.ended .exhausted, r.relay.forwarded⟩ := by
      simp [stage]
    rw [eq, take_close running last]
    simpa [stage] using Change.finishes stage next
  | some (.line text) => exact read_item (.line text) stage next
  | some (.failure reason) => exact read_item (.failure reason) stage next
  | some (.wait ms) =>
    have eq : read s r = wait s ((some ms).map (r.now + ·)) r
        fun r => { r with taken := r.taken + 1 } := by simp [read, next]
    exact eq ▸ wait_change (.source stage next) _ fun _ hms quiet => by
      cases hms
      exact .waits stage next quiet
  | some .silence =>
    -- `wait_change` asks what follows if the wait is over, and silence never is.
    have eq : read s r = wait s ((none : Option Nat).map (r.now + ·)) r id := by simp [read, next]
    exact eq ▸ wait_change (.silence stage next) _ fun _ hms _ => by simp at hms
  | some .cancel =>
    have eq : read s r = { r with taken := r.taken + 1, cancelled := true } := by simp [read, next]
    exact eq ▸ .readerCancels stage next

/-- A write that has nothing more to do is done. -/
theorem write_done {o : Outgoing} (stage : r.relay.stage = .writing o) (moves : r.moves = []) :
    Change s r (write s o r) := by
  have running : r.result? = none := by simp [stage]
  have eq : write s o r = take s .written r := by simp [write, moves]
  rw [eq]
  cases o with
  | failure reason =>
    have last : r.relay.next r.cancelled .written = ⟨.ended .readError, r.relay.forwarded⟩ := by
      simp [stage]
    rw [take_close running last]
    simpa [stage] using Change.told stage moves
  | line text =>
    -- The line counts as forwarded in both cases; the token is looked at after that.
    cases token : r.cancelled with
    | true =>
      have last : r.relay.next r.cancelled .written =
          ⟨.ended .cancelled, r.relay.forwarded + 1⟩ := by
        simp [stage, token]
      rw [take_close running last]
      simpa [stage] using Change.writtenLast stage moves token
    | false =>
      have on : r.relay.next r.cancelled .written = ⟨.resting, r.relay.forwarded + 1⟩ := by
        simp [stage, token]
      rw [take_move on (by simp [stage]) (Or.inr rfl)]
      simpa [moves] using Change.written (s := s) stage moves token

theorem write_change {o : Outgoing} (stage : r.relay.stage = .writing o) :
    Change s r (write s o r) := by
  have running : r.result? = none := by simp [stage]
  match moves : r.moves with
  | [] => exact write_done stage moves
  | .cancel :: more =>
    have eq : write s o r = { r with moves := more, cancelled := true } := by simp [write, moves]
    exact eq ▸ .writerCancels o stage moves
  | .wait ms :: more =>
    have eq : write s o r = wait s ((some ms).map (r.now + ·)) r
        fun r => { r with moves := more } := by simp [write, moves]
    exact eq ▸ wait_change (.phase stage moves) _ fun _ hms quiet => by
      cases hms
      exact .lingers o stage moves quiet
  | .hang :: more =>
    have eq : write s o r = wait s ((none : Option Nat).map (r.now + ·)) r id := by
      simp [write, moves]
    exact eq ▸ wait_change (.hang stage moves) _ fun _ hms _ => by simp at hms
  | .record :: more =>
    have eq : write s o r =
        { r with moves := more, frames := r.frames ++ [(r.now, o.frame s.target)] } := by
      simp [write, moves]
    exact eq ▸ .records o stage moves
  | .fail reason :: more =>
    have eq : write s o r = take s (.writeFailed reason) r := by simp [write, moves]
    have last : r.relay.next r.cancelled (.writeFailed reason) =
        ⟨.ended o.failed, r.relay.forwarded⟩ := by
      cases o <;> simp [stage, Outgoing.failed]
    have notes : r.relay.notes (.writeFailed reason) = o.failureNotes reason := by
      cases o <;> simp [stage, Outgoing.failureNotes]
    rw [eq, take_close running last, notes]
    exact .fails o stage moves

theorem rest_change (stage : r.relay.stage = .resting) :
    Change s r (wait s (some (r.now + s.throttle)) r (take s .rested)) := by
  refine wait_change (.rest stage) _ fun _ hms quiet => ?_
  cases hms
  have running : r.result? = none := by simp [stage]
  -- The rest may be over though the token is cancelled: a throttle of zero is not waited for.
  rcases Bool.eq_false_or_eq_true r.cancelled with token | token
  · have last : r.relay.next r.cancelled .rested = ⟨.ended .cancelled, r.relay.forwarded⟩ := by
      simp [stage, token]
    rw [take_close (r := { r with now := r.now + s.throttle }) running last]
    simpa [stage] using Change.restedLast stage quiet token
  · have on : r.relay.next r.cancelled .rested = ⟨.reading, r.relay.forwarded⟩ := by
      simp [stage, token]
    rw [take_move (r := { r with now := r.now + s.throttle }) on (by simp [stage])
      (Or.inl rfl)]
    exact .rested stage quiet token

end Run

/-- Nothing but a `Change` is ever made of a run by a step. -/
theorem step_change (s : Setup) (r : Run) : Change s r (Run.step s r) := by
  unfold Run.step
  match stage : r.relay.stage with
  | .reading => exact Run.read_change stage
  | .writing o => exact Run.write_change stage
  | .resting => exact Run.rest_change stage
  | .ended result => exact .ended stage

/-- A run that pauses is in a wait. -/
theorem Pause.step {s : Setup} {r : Run} {ms? : Option Nat} (h : Pause s r ms?) :
    ∃ after, Run.step s r = Run.wait s (ms?.map (r.now + ·)) r after := by
  cases h with
  | source stage next | silence stage next =>
    exact ⟨_, by simp only [Run.step, stage, Run.read, next]; rfl⟩
  | phase stage moves | hang stage moves =>
    exact ⟨_, by simp only [Run.step, stage, Run.write, moves]; rfl⟩
  | rest stage => exact ⟨_, by simp only [Run.step, stage]; rfl⟩

/-- There is one change to a run: the guards of `Change` leave nothing open. -/
theorem Change.eq_step {s : Setup} {r r' : Run} (c : Change s r r') : r' = Run.step s r := by
  cases c with
  | ended stage => simp [Run.step, stage]
  | stuck pause token outside =>
    cases pause with
    | silence stage next =>
      simp [Run.step, stage, Run.read, next, Run.wait, Setup.wake, token, outside]
    | hang stage moves =>
      simp [Run.step, stage, Run.write, moves, Run.wait, Setup.wake, token, outside]
  | called pause off =>
    -- Which of the waits it is does not matter here, so `Pause` is not taken apart.
    obtain ⟨after, eq⟩ := pause.step
    rw [eq, Run.wait, off.wake]
    exact (Run.take_cancelled (r := { r with now := _, cancelled := true }) pause.running).symm
  | waits stage next quiet => simp only [Run.step, stage, Run.read, next, Run.wait, quiet.wake]
  | readerCancels stage next => simp only [Run.step, stage, Run.read, next]
  | finishes stage next =>
    simp [Run.step, Run.read, next, Run.close, stage]
  | begins o stage next token =>
    cases o <;>
      simp [Run.step, Run.read, next, Outgoing.item, Outgoing.notes, Run.begin, stage, token]
  | drops o stage next token =>
    cases o <;>
      simp [Run.step, Run.read, next, Outgoing.item, Outgoing.notes, Run.close, stage, token]
  | writerCancels o stage moves => simp only [Run.step, stage, Run.write, moves]
  | lingers o stage moves quiet => simp only [Run.step, stage, Run.write, moves, Run.wait, quiet.wake]
  | records o stage moves => simp only [Run.step, stage, Run.write, moves]
  | fails o stage moves =>
    cases o <;>
      simp [Run.step, Run.write, moves, Outgoing.failed, Outgoing.failureNotes, Run.close, stage]
  | written stage moves token | writtenLast stage moves token =>
    simp [Run.step, Run.write, moves, Run.close, stage, token]
  | told stage moves =>
    simp [Run.step, Run.write, moves, Run.close, stage]
  | rested stage quiet token | restedLast stage quiet token =>
    have wake := quiet.wake
    rw [token] at wake
    simp [Run.step, Run.wait, wake, Run.close, stage, token]

/-- The frames grow along one constructor only, `Change.records`. -/
theorem Change.frames_cases {s : Setup} {r r' : Run} (c : Change s r r') :
    r'.frames = r.frames ∨
      ∃ o more, r.relay.stage = .writing o ∧ r.moves = .record :: more ∧
        r' = { r with moves := more, frames := r.frames ++ [(r.now, o.frame s.target)] } := by
  cases c with
  | records o stage moves => exact Or.inr ⟨o, _, stage, moves, rfl⟩
  | ended | stuck | called | waits | readerCancels | finishes | begins | drops | writerCancels
  | lingers | fails | written | writtenLast | told | rested | restedLast => exact Or.inl rfl

/-! ## Runs as sequences of steps

What holds of `Run.after s n` for every `n` is proved by induction on `n` from the start and from
`step_change`. A run that has ended is a fixed point of `Run.step` (`step_of_ended`), so what holds
of its end can also be read off the one step that ended it (`last_step`). -/

namespace Run

variable {s : Setup} {r : Run}

theorem result?_eq_some {result : RelayEnd} :
    r.result? = some result ↔ r.relay.stage = .ended result := by
  unfold result? State.result?
  cases r.relay.stage <;> simp

theorem result?_eq_none : r.result? = none ↔ ∀ result, r.relay.stage ≠ .ended result := by
  unfold result? State.result?
  cases r.relay.stage <;> simp

theorem step_of_ended {result : RelayEnd} (h : r.result? = some result) : step s r = r := by
  unfold step
  rw [result?_eq_some.mp h]

/-- A run that has ended stays as it is. -/
theorem after_of_ended {n : Nat} {result : RelayEnd} (h : (after s n).result? = some result)
    (m : Nat) : after s (n + m) = after s n := by
  induction m with
  | zero => rfl
  | succ m ih =>
    rw [← Nat.add_assoc, after, ih]
    exact step_of_ended h

/-- A run that has ended did so at its beginning, or in a step that found it running. -/
theorem last_step {n : Nat} {result : RelayEnd} (h : (after s n).result? = some result) :
    after s n = start s ∨
      ∃ m < n, (after s m).result? = none ∧ after s (m + 1) = after s n := by
  induction n with
  | zero => exact Or.inl rfl
  | succ n ih =>
    cases running : (after s n).result? with
    | none => exact Or.inr ⟨n, Nat.lt_succ_self n, running, rfl⟩
    | some result' =>
      -- It had ended before this step, which therefore changed nothing.
      have same : after s (n + 1) = after s n := step_of_ended running
      rw [same] at h ⊢
      refine (ih h).imp_right ?_
      rintro ⟨m, hm, hr⟩
      exact ⟨m, Nat.lt_succ_of_lt hm, hr⟩

end Run

end Relay

end PodTail
