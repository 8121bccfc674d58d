import PodTail.Proofs.Session.History

/-!
# What the watcher makes of a client

Nothing that a client says changes its session (`step_message`); only its leaving does, through
`Signal.leaving`. This module has two consequences.

The first is about the token. It is cancelled for three reasons: the client has left, the service
was shut down, or the relay has returned, which cancels it for the sake of the watcher
(`Session.endRelay`). The third comes when the result is there already, so a session that ends as
`cancelled` does so for one of the first two. `Accounted left stopped s acts` is this as an
invariant, with `left` and `stopped` as parameters: propositions that hold once the client has left
and the service was shut down. `Accounted.change` is the step lemma, and its cases are of four
kinds: the session goes on, its relay returns, it winds up, or the watcher is done.

The second is about the wait for the watcher (`Stage.parting`). There may be messages left which the
watcher has not read, and at each of its turns it may see the cancelled token or read the next
message, by a choice that is not the session's. `Wait.turns_out` shows that for every list of
choices it is done after one turn for each message and one more, with the same session and the same
acts but for what it notes about the client.
-/

set_option autoImplicit false

namespace PodTail

/-- The notes on a client that is gone. -/
def Event.isFarewell : Event → Bool
  | .clientLeft => true
  | .socketReadFailed _ => true
  | _ => false

namespace Session

variable {shutdown : Bool} {s s' : Session} {i : Input} {acts more : List Act}

/-- A message makes nothing of a session. -/
theorem step_message (shutdown : Bool) (s : Session) :
    s.step shutdown (.client .message) = (s, []) := by
  have unread : s.clientStep .message = (s, []) := by
    unfold clientStep
    split
    next leaving => exact nomatch leaving
    next => rfl
  cases stage : s.stage <;> simpa [step, stage] using unread

/-! ## The watcher is there

`Attended` is what keeps `Stage.parting` from lasting for ever: there is a watcher, it is awake, and
the token it looks at is cancelled. -/

/-- While there is a relay the watcher is awake, and who waits for the watcher waits for one that
watches a cancelled token. -/
structure Attended (s : Session) : Prop where
  relaying : ∀ r source, s.stage = .relaying r source → s.watcher ≠ .asleep
  parting : ∀ result, s.stage = .parting result → s.watcher = .watching ∧ s.cancelled = true

/-- A step keeps `Attended`. The step that matters is the end of the relay, which cancels the token
    and waits only if the watcher is not done. -/
theorem Attended.change (attended : Attended s) (change : Change shutdown s i s' more) :
    Attended s' := by
  cases change with
  | ignored => exact attended
  | asks | refused | tells | closesEmpty | closes | parts => exact ⟨by simp, by simp⟩
  | opens | opensLate => exact ⟨by simp, by simp⟩
  | reads _ stage | rests stage | resumes stage =>
    exact ⟨fun _ _ _ => attended.relaying _ _ stage, by simp⟩
  | @ends r source arm result _ _ stage =>
    unfold part
    split
    · exact ⟨by simp, by simp⟩
    next going =>
      -- A session that relays has a watcher that is awake, and this one is not done.
      refine ⟨by simp, ?_⟩
      intro _ _
      cases watcher : s.watcher with
      | asleep => exact absurd watcher (attended.relaying _ _ stage)
      | watching => exact ⟨rfl, rfl⟩
      | done => exact absurd watcher going
  | watched watching why elsewhere =>
    refine ⟨by simp, ?_⟩
    intro result stage
    exact absurd stage (elsewhere result)

theorem attended_start (label : String) (tail : Option Int) (t : Target) (shutdown : Bool) :
    Attended (History.start label tail t shutdown).session := by
  obtain ⟨events, _, ⟨why, eq⟩ | ⟨d, q, eq⟩⟩ := start_cases label tail shutdown t
  · simp only [History.start, eq]
    exact ⟨by simp, by simp⟩
  · simp only [History.start, eq]
    exact ⟨by simp, by simp⟩

theorem attended_after (label : String) (tail : Option Int) (t : Target) (first : Bool)
    (inputs : List (Bool × Input)) : Attended (History.after label tail t first inputs).session := by
  have both := History.after_keeps
    (P := fun h => h.InPlace label tail t ∧ Attended h.session)
    ⟨History.inPlace_start label tail t first, attended_start label tail t first⟩
    (fun _ i ⟨place, attended⟩ => ⟨place.step i, attended.change (place.change i)⟩) inputs
  exact both.2

/-! ## Why a token is cancelled

`Stage.returned` says that the relay, if there was one, is behind the session; from then on a
cancelled token has no consequence for the result. -/

/-- Whether the relay has returned, if there was one. -/
def Stage.returned : Stage → Bool
  | .looking _ | .apologising | .relaying .. => false
  | .parting _ | .closing _ | .over => true

/-- The result of the relay that is still known. -/
def Stage.result? : Stage → Option RelayEnd
  | .parting result => some result
  | .closing result? => result?
  | _ => none

/-- The token of a session is cancelled for a reason, and the session does not end as cancelled
    without one. Here `left` says that the client has left, and `stopped` that the service was shut
    down. -/
structure Accounted (left stopped : Prop) (s : Session) (acts : List Act) : Prop where
  token : s.cancelled = true →
    left ∨ s.stage.returned = true ∧ ∃ n result, .note (.relayFinished n result) ∈ acts
  result : s.stage.result? = some .cancelled → left ∨ stopped
  ended : ∀ t, .note (.sessionEnded t .cancelled) ∈ deeds acts → left ∨ stopped

section

variable {left stopped : Prop}

/-- A relay ends as cancelled only if its token was. -/
theorem token_of_ending {r : Relay.State} {token : Bool} {arm : Relay.Arm} {notes : List Event}
    {forwarded : Nat} (last : r.Ending token arm .cancelled notes forwarded) : token = true := by
  generalize eq : RelayEnd.cancelled = result at last
  cases last with
  | calledOff | interrupted | writtenLast => rfl
  | finished | told => cases eq
  | @failed _ o => cases o <;> cases eq

theorem part_result (s : Session) (result : RelayEnd) :
    (s.part result).1.stage.returned = true ∧ (s.part result).1.stage.result? = some result ∧
      ∀ e, .note e ∉ deeds (s.part result).2 := by
  unfold part
  split
  · exact ⟨rfl, rfl, by simp [Act.isDeed]⟩
  · exact ⟨rfl, rfl, by simp⟩

namespace Accounted

/-- As long as the relay has not returned, only the client can have cancelled the token. -/
theorem early (accounted : Accounted left stopped s acts) (running : s.stage.returned = false)
    (cancelled : s.cancelled = true) : left := by
  rcases accounted.token cancelled with gone | ⟨returned, -⟩
  · exact gone
  · rw [running] at returned
    cases returned

theorem called (accounted : Accounted left stopped s acts) (running : s.stage.returned = false)
    (stops : shutdown = true → stopped) (token : (s.cancelled || shutdown) = true) :
    left ∨ stopped := by
  rcases Bool.or_eq_true_iff.mp token with cancelled | down
  · exact Or.inl (accounted.early running cancelled)
  · exact Or.inr (stops down)

/-- The session goes on, with the token as it was and without a result. -/
theorem goes_on (accounted : Accounted left stopped s acts) (running : s.stage.returned = false)
    (same : s'.cancelled = s.cancelled) (going : s'.stage.result? = none)
    (quiet : ∀ t, .note (.sessionEnded t .cancelled) ∉ deeds more) :
    Accounted left stopped s' (acts ++ more) := by
  refine ⟨?_, by simp [going], ?_⟩
  · intro cancelled
    exact Or.inl (accounted.early running (same ▸ cancelled))
  · intro t mem
    rw [deeds_append, List.mem_append] at mem
    exact accounted.ended t (mem.resolve_right (quiet t))

/-- The session winds up: its relay has returned, and the result is kept or noted as it is. -/
theorem winds_up (accounted : Accounted left stopped s acts) (returned : s'.stage.returned = true)
    (cancels : s'.cancelled = true → left ∨ s.cancelled = true)
    (kept : ∀ result, s'.stage.result? = some result → s.stage.result? = some result)
    (noted : ∀ t result, .note (.sessionEnded t result) ∈ deeds more →
      s.stage.result? = some result) :
    Accounted left stopped s' (acts ++ more) := by
  refine ⟨?_, fun same => accounted.result (kept _ same), ?_⟩
  · intro cancelled
    rcases cancels cancelled with gone | before
    · exact Or.inl gone
    · rcases accounted.token before with gone | ⟨-, n, result, mem⟩
      · exact Or.inl gone
      · exact Or.inr ⟨returned, n, result, List.mem_append_left _ mem⟩
  · intro t mem
    rw [deeds_append, List.mem_append] at mem
    rcases mem with old | new
    · exact accounted.ended t old
    · exact accounted.result (noted t _ new)

/-- The relay returns and cancels the token. If its result is `cancelled`, there was a cause before.
    -/
theorem returns (accounted : Accounted left stopped s acts) (returned : s'.stage.returned = true)
    {result : RelayEnd} (known : s'.stage.result? = some result)
    (caused : result = .cancelled → left ∨ stopped)
    (finished : ∃ n, .note (.relayFinished n result) ∈ more)
    (quiet : ∀ t, .note (.sessionEnded t .cancelled) ∉ deeds more) :
    Accounted left stopped s' (acts ++ more) := by
  refine ⟨?_, ?_, ?_⟩
  · intro _
    obtain ⟨n, mem⟩ := finished
    exact Or.inr ⟨returned, n, result, List.mem_append_right _ mem⟩
  · intro same
    rw [known, Option.some.injEq] at same
    exact caused same
  · intro t mem
    rw [deeds_append, List.mem_append] at mem
    exact accounted.ended t (mem.resolve_right (quiet t))

/-- **A step keeps `Accounted`**, if `stopped` holds where the step sees a cancelled shutdown token,
    and `left` where it reads that the client is gone. -/
theorem change (accounted : Accounted left stopped s acts) (stops : shutdown = true → stopped)
    (leaves : ∀ signal, i = .client signal → signal.leaving ≠ none → left)
    (change : Change shutdown s i s' more) : Accounted left stopped s' (acts ++ more) := by
  cases change with
  | ignored => simpa using accounted
  | asks stage _ _ _ _ quiet | refused stage _ _ _ quiet | opens stage _ _ quiet =>
    exact accounted.goes_on (by rw [stage]; rfl) rfl rfl
      (by simp [deeds_notes quiet, Act.isDeed, Event.isOutcome])
  | @reads _ _ o stage =>
    exact accounted.goes_on (by rw [stage]; rfl) rfl rfl
      (by simp [deeds_notes (notes_quiet o), Act.isDeed])
  | rests stage | resumes stage | tells stage =>
    exact accounted.goes_on (by rw [stage]; rfl) rfl rfl (by simp [Act.isDeed])
  | opensLate stage _ _ quiet token =>
    have caused := accounted.called (by rw [stage]; rfl) stops token
    exact accounted.returns rfl rfl (fun _ => caused) ⟨0, by simp⟩
      (by simp [deeds_notes quiet, Act.isDeed, Event.isOutcome])
  | @ends r source arm result notes forwarded stage last =>
    -- `endRelay` cancels the token, but the result is that of a relay which saw the token as it was
    -- before (`token_of_ending`).
    obtain ⟨returned, known, silent⟩ := part_result { s with cancelled := true } result
    refine accounted.returns returned known ?_ ⟨forwarded, by simp⟩ ?_
    · rintro rfl
      exact accounted.called (by rw [stage]; rfl) stops (token_of_ending last)
    · simp [deeds_notes (ending_quiet last), Act.isDeed, Event.isOutcome, silent]
  | closesEmpty stage =>
    exact accounted.winds_up rfl Or.inr (by simp [Stage.result?]) (by simp)
  | closes stage =>
    refine accounted.winds_up rfl Or.inr (by simp [Stage.result?]) ?_
    intro t result mem
    simp only [deeds_cons, Act.isDeed, Event.isOutcome, if_true, deeds_nil, List.mem_singleton,
      Act.note.injEq, Event.sessionEnded.injEq] at mem
    rw [stage, mem.2]
    rfl
  | watched watching why elsewhere =>
    refine ⟨?_, accounted.result, by simpa [deeds_notes why.deaf.2.2] using accounted.ended⟩
    intro cancelled
    cases why with
    | left leaving => exact Or.inl (leaves _ rfl (by simp [leaving]))
    -- a watcher that is called leaves the token of the session as it was
    | called =>
      rcases accounted.token cancelled with gone | ⟨returned, n, result, mem⟩
      · exact Or.inl gone
      · exact Or.inr ⟨returned, n, result, List.mem_append_left _ mem⟩
  | parts watching why stage =>
    refine accounted.winds_up rfl ?_ (by simp [stage, Stage.result?])
      (by simp [deeds_notes why.deaf.2.2, Act.isDeed])
    intro cancelled
    cases why with
    | left leaving => exact Or.inl (leaves _ rfl (by simp [leaving]))
    | called => exact Or.inr cancelled

end Accounted

theorem accounted_start (left stopped : Prop) (label : String) (tail : Option Int) (t : Target)
    (shutdown : Bool) :
    Accounted left stopped (History.start label tail t shutdown).session
      (History.start label tail t shutdown).acts := by
  obtain ⟨events, quiet, ⟨why, eq⟩ | ⟨d, q, eq⟩⟩ := start_cases label tail shutdown t
  · simp only [History.start, eq]
    refine ⟨by simp, by simp [Stage.result?], ?_⟩
    simp [deeds_notes quiet, Act.isDeed, Event.isOutcome]
  · simp only [History.start, eq]
    refine ⟨by simp, by simp [Stage.result?], ?_⟩
    simp [deeds_notes quiet, Act.isDeed, Event.isOutcome]

end

/-! ## Waiting for the watcher

A `Wait` is a session in `Stage.parting` with the signals still to be read; `Wait.turn` is one turn
of the watcher, with the shutdown token as it is and the choice whether it looks at the token first.
-/

/-- A session that waits for its watcher, what the client has said that has not been read, and what
the session has done meanwhile. -/
structure Wait where
  session : Session
  unread : List Signal
  acts : List Act

namespace Wait

/-- The session takes an input. -/
def take (w : Wait) (shutdown : Bool) (i : Input) (unread : List Signal) : Wait :=
  let (session, acts) := w.session.step shutdown i
  ⟨session, unread, w.acts ++ acts⟩

/-- The watcher has a turn. It sees the token if it chooses to, or if there is nothing to read. -/
def turn (w : Wait) (choice : Bool × Bool) : Wait :=
  match w.unread, choice.2 with
  | signal :: unread, false => w.take choice.1 (.client signal) unread
  | unread, _ => w.take choice.1 .watcherCalled unread

end Wait

theorem farewell_leaving {signal : Signal} {events : List Event}
    (leaving : signal.leaving = some events) : ∀ e ∈ events, e.isFarewell = true := by
  cases signal <;> simp only [Signal.leaving, Option.some.injEq, reduceCtorEq] at leaving <;>
    subst leaving <;> simp [Event.isFarewell]

section

variable {result : RelayEnd}

/-- A session that has waited for its watcher. -/
def waited (s : Session) (result : RelayEnd) : Session :=
  { s with watcher := .done, stage := .closing (some result) }

theorem step_called (stage : s.stage = .parting result) (attended : Attended s) (shutdown : Bool) :
    s.step shutdown .watcherCalled = (s.waited result, [.close]) := by
  obtain ⟨watching, token⟩ := attended.parting result stage
  simp [step, stage, watching, token, watcherDone, part, waited]

theorem step_leaving (stage : s.stage = .parting result) (attended : Attended s) (shutdown : Bool)
    {signal : Signal} {events : List Event} (leaving : signal.leaving = some events) :
    s.step shutdown (.client signal) = (s.waited result, events.map .note ++ [.close]) := by
  obtain ⟨watching, token⟩ := attended.parting result stage
  simp [step, clientStep, stage, watching, leaving, watcherDone, part, waited, token]

/-- A watcher that is done neither reads nor sees anything. -/
theorem step_done (done : s.watcher = .done) (shutdown : Bool) :
    s.step shutdown .watcherCalled = (s, []) ∧
      ∀ signal, s.step shutdown (.client signal) = (s, []) := by
  refine ⟨?_, ?_⟩
  · cases s.stage <;> simp [step, done]
  · intro signal
    cases s.stage <;> simp [step, clientStep, done]

namespace Wait

/-- The watcher is done and the socket is being closed; `acts` was done before, and since then
    nothing else but that something may have been noted of the client. -/
structure Out (s : Session) (result : RelayEnd) (acts : List Act) (w : Wait) : Prop where
  session : w.session = s.waited result
  acts : ∃ notes : List Event, (∀ e ∈ notes, e.isFarewell = true) ∧
    w.acts = acts ++ (notes.map .note ++ [.close])

theorem Out.turn {w : Wait} (out : Out s result acts w) (choice : Bool × Bool) :
    Out s result acts (w.turn choice) := by
  have done : w.session.watcher = .done := by rw [out.session]; rfl
  obtain ⟨called, read⟩ := step_done done choice.1
  have same : (w.turn choice).session = w.session ∧ (w.turn choice).acts = w.acts := by
    unfold Wait.turn
    split
    · simp [take, read]
    · simp [take, called]
  exact ⟨same.1.trans out.session, same.2 ▸ out.acts⟩

theorem Out.turns {w : Wait} (out : Out s result acts w) (choices : List (Bool × Bool)) :
    Out s result acts (choices.foldl Wait.turn w) := by
  induction choices generalizing w with
  | nil => exact out
  | cons choice choices ih => exact ih (out.turn choice)

/-- A turn is the last one, or it takes a message off and leaves everything else as it was. -/
theorem turn_cases (stage : s.stage = .parting result) (attended : Attended s)
    (unread : List Signal) (acts : List Act) (choice : Bool × Bool) :
    Out s result acts (turn ⟨s, unread, acts⟩ choice) ∨
      ∃ signal more, unread = signal :: more ∧ turn ⟨s, unread, acts⟩ choice = ⟨s, more, acts⟩ := by
  have called : Out s result acts (take ⟨s, unread, acts⟩ choice.1 .watcherCalled unread) := by
    rw [take, step_called stage attended]
    exact ⟨rfl, [], by simp, rfl⟩
  cases unread with
  | nil => exact Or.inl called
  | cons signal more =>
    cases token : choice.2 with
    | true =>
      have eq : turn ⟨s, signal :: more, acts⟩ choice =
          take ⟨s, signal :: more, acts⟩ choice.1 .watcherCalled (signal :: more) := by
        simp [turn, token]
      exact Or.inl (eq ▸ called)
    | false =>
      -- The watcher reads: a signal that the client is gone ends the wait, a message does not.
      have eq : turn ⟨s, signal :: more, acts⟩ choice =
          take ⟨s, signal :: more, acts⟩ choice.1 (.client signal) more := by
        simp [turn, token]
      rw [eq, take]
      cases leaving : signal.leaving with
      | some events =>
        rw [step_leaving stage attended choice.1 leaving]
        exact Or.inl ⟨rfl, events, farewell_leaving leaving, rfl⟩
      | none =>
        have message : signal = .message := by
          cases signal <;> simp [Signal.leaving] at leaving ⊢
        rw [message, step_message]
        exact Or.inr ⟨.message, more, rfl, by simp⟩

/-- **The wait ends whatever the choices are**, after one turn for each signal left and one more.
    The induction is on the choices; each turn that is not the last makes the list of signals
    shorter. -/
theorem turns_out (stage : s.stage = .parting result) (attended : Attended s)
    {unread : List Signal} {choices : List (Bool × Bool)} (enough : unread.length < choices.length) :
    Out s result acts (choices.foldl turn ⟨s, unread, acts⟩) := by
  induction choices generalizing unread with
  | nil => simp at enough
  | cons choice choices ih =>
    rw [List.foldl_cons]
    rcases turn_cases stage attended unread acts choice with out | ⟨signal, more, rfl, eq⟩
    · exact out.turns choices
    · rw [eq]
      exact ih (by simpa using enough)

end Wait

end

end Session

end PodTail
