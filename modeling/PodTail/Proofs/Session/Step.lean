import PodTail.Proofs.Lookup.Transcript
import PodTail.Proofs.Relay.Step
import PodTail.Session

/-!
# What one step of a session can do

`Session.step` is opened once, here, as `Relay.Run.step` is in `PodTail.Proofs.Relay.Step`.
`Session.Change shutdown s i s' acts` has one constructor for each thing that an input `i` can make
of a session `s`, with its guard, the next session and the acts, and `step_change` says that there
are no others. All invariants of sessions are case analyses of it; the inputs that a session does
not wait for are the one constructor `Change.ignored`.

`step_change` has a hypothesis about the look-up. The type `Lookup OpenLog` admits a look-up that
finds a log it has not asked for, or asks again after it has opened one. Those that a session is
engaged in come from `Lookup.openTarget`, and `Lookup.OpensLast` says what distinguishes them: a log
is asked for last, and the log that is found is the one in the answer. `openTarget_opensLast` shows
it of the look-up that a session starts with, and `Change.asks` hands it on to the next.

The lemmas follow the functions that `Session.step` calls: `follow_change` for `Session.follow`,
`relay_change` for `Session.relayStep`, `watched_change` for `Session.watcherDone`, and one lemma
for each kind of input that puts these together.
-/

set_option autoImplicit false

namespace PodTail

/-- The notes on what became of a session: it failed, or it is over. -/
def Event.isOutcome : Event → Bool
  | .sessionFailed .. => true
  | .sessionEnded .. => true
  | _ => false

/-! ## Look-ups that open a log

`OpensLast` is by induction on the look-up, with a clause for each question. For `log` the two
answers differ: with a log the look-up has nothing left but notes (`skim` finds it), and with an
error it goes on as any other. -/

namespace Lookup

/-- A look-up that asks for a log last, if it does, and then finds the log it is given. -/
inductive OpensLast : Lookup OpenLog → Prop where
  | refused (why : StreamFailure) : OpensLast (.refused why)
  | list {ns : String} {selector : Labels} {next : Except ClusterFailure (List Pod) → Lookup OpenLog}
      (rest : ∀ answer, OpensLast (next answer)) : OpensLast (.list ns selector next)
  | get {ns pod : String} {next : Except ClusterFailure Pod → Lookup OpenLog}
      (rest : ∀ answer, OpensLast (next answer)) : OpensLast (.get ns pod next)
  | log {ns pod container : String} {tail : Option Int}
      {next : Except ClusterFailure OpenLog → Lookup OpenLog}
      (ok : ∀ source, ∃ events, (next (.ok source)).skim = (events, .found source) ∧
        ∀ e ∈ events, e.isOutcome = false)
      (error : ∀ cause, OpensLast (next (.error cause))) :
      OpensLast (.log ns pod container tail next)
  | note {e : Event} {next : Lookup OpenLog} (quiet : e.isOutcome = false) (rest : OpensLast next) :
      OpensLast (.note e next)

theorem openLog_opensLast (tail : Option Int) (ns : String) (e : Endpoint) :
    (openLog tail ns e).OpensLast := by
  unfold openLog
  refine .get fun answer => ?_
  cases answer with
  | error cause => exact .refused _
  | ok p =>
    by_cases has : e.container ∈ p.containers
    · simp only [if_pos has]
      refine .log (fun source => ⟨[.opened ns e], rfl, ?_⟩) (fun cause => .refused _)
      intro event mem
      rw [List.mem_singleton.mp mem]
      rfl
    · simp only [if_neg has]
      exact .refused _

/-- Resolving a target asks for no log, so what follows it keeps its place as the last. -/
theorem resolve_bind_opensLast (label : String) (t : Target) (f : Endpoint → Lookup OpenLog)
    (h : ∀ e, (f e).OpensLast) : ((resolve label t).bind f).OpensLast := by
  -- Wherever `resolve` succeeds it leaves this behind; every other branch ends in a refusal.
  have noted : ∀ e, ((Lookup.note (.resolved t e) (.found e)).bind f).OpensLast :=
    fun e => .note rfl (h e)
  unfold resolve
  cases kind : t.kind with
  | pod =>
    simp only [resolvePod]
    cases t.container with
    | some container => exact noted _
    | none =>
      refine .get fun answer => ?_
      cases answer with
      | error cause => exact .refused _
      | ok p =>
        simp only [onlyContainer]
        split
        · exact noted _
        · exact .refused _
  | capp =>
    simp only [resolveCapp]
    refine .list fun answer => ?_
    cases answer with
    | error cause => exact .refused _
    | ok pods =>
      simp only [choose]
      split
      · exact .refused _
      · exact noted _
      · split
        · exact noted _
        · exact .refused _

theorem openTarget_opensLast (label : String) (tail : Option Int) (t : Target) :
    (openTarget label tail t).OpensLast :=
  resolve_bind_opensLast label t _ fun e => openLog_opensLast tail t.ns e

/-- `Lookup.skim` takes the notes off. What is left of such a look-up is a refusal or a question,
    never a log, since a log is found only behind the answer that gives it. -/
theorem OpensLast.skim {d : Lookup OpenLog} (h : d.OpensLast) :
    d.skim.2.OpensLast ∧ (∀ e ∈ d.skim.1, e.isOutcome = false) ∧
      ((∃ why, d.skim.2 = .refused why) ∨ ∃ q, d.skim.2.question? = some q) := by
  induction h with
  | refused why => exact ⟨.refused why, by simp [Lookup.skim], Or.inl ⟨why, rfl⟩⟩
  | list rest => exact ⟨.list rest, by simp [Lookup.skim], Or.inr ⟨_, rfl⟩⟩
  | get rest => exact ⟨.get rest, by simp [Lookup.skim], Or.inr ⟨_, rfl⟩⟩
  | log ok error => exact ⟨.log ok error, by simp [Lookup.skim], Or.inr ⟨_, rfl⟩⟩
  | note quiet _ ih =>
    obtain ⟨rest, events, ends⟩ := ih
    exact ⟨rest, List.forall_mem_cons.mpr ⟨quiet, events⟩, ends⟩

/-! ## Answers

`heard?` says which input answers which question, so that `Session.step` need be opened at a look-up
only once (`answer_change`) and not for each of the three kinds of answers. -/

/-- What an answer makes of a look-up that waits for it: it is written down with its question, and
    the look-up goes on. -/
def heard? {α : Type} : Lookup α → Session.Input → Option (Exchange × Lookup α)
  | .list ns selector next, .listed answer => some (.listed ns selector answer, next answer)
  | .get ns pod next, .got answer => some (.got ns pod answer, next answer)
  | .log ns pod container tail next, .opened answer =>
    some (.opened ns pod container tail answer, next answer)
  | _, _ => none

/-- What is left of a look-up behind an answer has found a log if the answer was one, and opens a
    log last if it was not. -/
theorem OpensLast.heard {d rest : Lookup OpenLog} {i : Session.Input} {x : Exchange}
    (h : d.OpensLast) (hears : d.heard? i = some (x, rest)) :
    (∃ source events, i = .opened (.ok source) ∧ rest.skim = (events, .found source) ∧
      ∀ e ∈ events, e.isOutcome = false) ∨
    ((∀ source, i ≠ .opened (.ok source)) ∧ rest.OpensLast) := by
  cases h with
  | refused | note => simp [heard?] at hears
  | list next =>
    cases i <;> simp only [heard?, Option.some.injEq, Prod.mk.injEq, reduceCtorEq] at hears
    exact Or.inr ⟨by simp, hears.2 ▸ next _⟩
  | get next =>
    cases i <;> simp only [heard?, Option.some.injEq, Prod.mk.injEq, reduceCtorEq] at hears
    exact Or.inr ⟨by simp, hears.2 ▸ next _⟩
  | log ok error =>
    cases i with
    | opened answer =>
      simp only [heard?, Option.some.injEq, Prod.mk.injEq] at hears
      obtain ⟨rfl, rfl⟩ := hears
      -- The one question whose answer can be a log.
      cases answer with
      | ok source =>
        obtain ⟨events, skim, quiet⟩ := ok source
        exact Or.inl ⟨source, events, rfl, skim, quiet⟩
      | error cause => exact Or.inr ⟨by simp, error cause⟩
    | listed | got | relay | socketDone | client | watcherCalled => simp [heard?] at hears

end Lookup

/-! ## The end of a relay

`Relay.State.Ending` lists the arms on which `State.next` ends a relay, with what `Session.endRelay`
needs of each: the result, the notes and the count. It is one constructor of `Session.Change`. -/

namespace Relay

/-- What has been read for a write of `o`. -/
def Outgoing.read : Outgoing → Item
  | .line text => .line text
  | .failure reason => .failure reason

/-- A relay ends on an arm, with a result, some notes, and a number of lines written. A relay that
    waits for the log or rests does so on any arm if its token is cancelled. -/
inductive State.Ending (r : State) : Bool → Arm → RelayEnd → List Event → Nat → Prop where
  | finished (reading : r.stage = .reading) :
      Ending r false (.item .finish) .exhausted [] r.forwarded
  | calledOff {arm : Arm} (waiting : r.stage = .reading ∨ r.stage = .resting) :
      Ending r true arm .cancelled [] r.forwarded
  | interrupted {o : Outgoing} (writing : r.stage = .writing o) :
      Ending r true .cancelled .cancelled [] r.forwarded
  | writtenLast {text : String} (writing : r.stage = .writing (.line text)) :
      Ending r true .written .cancelled [] (r.forwarded + 1)
  | failed {token : Bool} {o : Outgoing} {reason : String} (writing : r.stage = .writing o) :
      Ending r token (.writeFailed reason) o.failed (o.failureNotes reason) r.forwarded
  | told {token : Bool} {reason : String} (writing : r.stage = .writing (.failure reason)) :
      Ending r token .written .readError [] r.forwarded

end Relay

namespace Session

variable {shutdown : Bool} {s : Session} {i : Input}

/-! ## What changes

`hears` and `takes` are the two things that are written down of an input besides the acts: the
answer, and what the relay has read. They are functions of the session and the input, so that each
constructor of `Change` determines them. -/

/-- The answer that a session hears in an input, with the question. -/
def hears (s : Session) (i : Input) : Option Exchange :=
  match s.stage with
  | .looking d => (d.heard? i).map (·.1)
  | _ => none

/-- What the relay of a session takes from its log in an input. -/
def takes (shutdown : Bool) (s : Session) (i : Input) : Option Relay.Item :=
  match s.stage, i with
  | .relaying r _, .relay (.item item) =>
    if r.stage = .reading ∧ (s.cancelled || shutdown) = false then some item else none
  | _, _ => none

/-- The watcher is done: it has read what makes it cancel the token, or sees that the token is
    cancelled. -/
inductive Watched (shutdown : Bool) (s : Session) : Input → Bool → List Event → Prop where
  | left {signal : Signal} {events : List Event} (leaving : signal.leaving = some events) :
      Watched shutdown s (.client signal) true events
  | called (token : (s.cancelled || shutdown) = true) :
      Watched shutdown s .watcherCalled s.cancelled []

/-- What one input can make of a session, and what the session does then. -/
inductive Change (shutdown : Bool) (s : Session) : Input → Session → List Act → Prop where
  /-- The session does not wait for this. -/
  | ignored (i : Input) (deaf : s.hears i = none) (idle : s.takes shutdown i = none) :
      Change shutdown s i s []
  /-- The look-up asks on. -/
  | asks {i : Input} {d rest d' : Lookup OpenLog} {x : Exchange} {events : List Event}
      {q : Lookup.Question} (stage : s.stage = .looking d) (hears : d.heard? i = some (x, rest))
      (opensLast : d'.OpensLast) (given : ∀ source, i ≠ .opened (.ok source))
      (skim : rest.skim = (events, d')) (quiet : ∀ e ∈ events, e.isOutcome = false)
      (question : d'.question? = some q) :
      Change shutdown s i { s with stage := .looking d' } (events.map .note ++ [.ask q])
  /-- The look-up is refused, and the client is told. -/
  | refused {i : Input} {d rest : Lookup OpenLog} {x : Exchange} {events : List Event}
      {why : StreamFailure} (stage : s.stage = .looking d) (hears : d.heard? i = some (x, rest))
      (given : ∀ source, i ≠ .opened (.ok source)) (skim : rest.skim = (events, .refused why))
      (quiet : ∀ e ∈ events, e.isOutcome = false) :
      Change shutdown s i { s with stage := .apologising }
        (events.map .note ++ [.note (.sessionFailed s.target why), .send (apology s.target why)])
  /-- A log is opened, and the relay begins. -/
  | opens {d rest : Lookup OpenLog} {x : Exchange} {events : List Event} {source : OpenLog}
      (stage : s.stage = .looking d) (hears : d.heard? (.opened (.ok source)) = some (x, rest))
      (skim : rest.skim = (events, .found source)) (quiet : ∀ e ∈ events, e.isOutcome = false)
      (token : (s.cancelled || shutdown) = false) :
      Change shutdown s (.opened (.ok source))
        { s with watcher := .watching, stage := .relaying ⟨.reading, 0⟩ source }
        (.opened :: events.map .note)
  /-- A log is opened, but the token is cancelled. -/
  | opensLate {d rest : Lookup OpenLog} {x : Exchange} {events : List Event} {source : OpenLog}
      (stage : s.stage = .looking d) (hears : d.heard? (.opened (.ok source)) = some (x, rest))
      (skim : rest.skim = (events, .found source)) (quiet : ∀ e ∈ events, e.isOutcome = false)
      (token : (s.cancelled || shutdown) = true) :
      Change shutdown s (.opened (.ok source))
        { s with watcher := .watching, cancelled := true, stage := .parting .cancelled }
        (.opened :: (events.map .note ++
          [.release source, .note (.relayFinished 0 .cancelled)]))
  /-- Something is read from the log, and its write begins. -/
  | reads {r : Relay.State} {source : OpenLog} (o : Relay.Outgoing)
      (stage : s.stage = .relaying r source) (reading : r.stage = .reading)
      (token : (s.cancelled || shutdown) = false) :
      Change shutdown s (.relay (.item o.read))
        { s with stage := .relaying ⟨.writing o, r.forwarded⟩ source }
        (o.notes.map .note ++ [.send (o.frame s.target)])
  /-- A line is written, and the relay rests. -/
  | rests {r : Relay.State} {source : OpenLog} {text : String}
      (stage : s.stage = .relaying r source) (writing : r.stage = .writing (.line text))
      (token : (s.cancelled || shutdown) = false) :
      Change shutdown s (.relay .written)
        { s with stage := .relaying ⟨.resting, r.forwarded + 1⟩ source } []
  /-- The rest is over. -/
  | resumes {r : Relay.State} {source : OpenLog} (stage : s.stage = .relaying r source)
      (resting : r.stage = .resting) (token : (s.cancelled || shutdown) = false) :
      Change shutdown s (.relay .rested)
        { s with stage := .relaying ⟨.reading, r.forwarded⟩ source } []
  /-- The relay ends. -/
  | ends {r : Relay.State} {source : OpenLog} {arm : Relay.Arm} {result : RelayEnd}
      {notes : List Event} {forwarded : Nat} (stage : s.stage = .relaying r source)
      (last : r.Ending (s.cancelled || shutdown) arm result notes forwarded) :
      Change shutdown s (.relay arm) ({ s with cancelled := true }.part result).1
        (notes.map .note ++ (.release source :: .note (.relayFinished forwarded result)
          :: ({ s with cancelled := true }.part result).2))
  /-- The client has been told why there is no log. -/
  | tells (stage : s.stage = .apologising) :
      Change shutdown s .socketDone { s with stage := .closing none } [.close]
  /-- The socket of a session without a log is closed. -/
  | closesEmpty (stage : s.stage = .closing none) :
      Change shutdown s .socketDone { s with stage := .over } []
  /-- The socket is closed, and the session is over. -/
  | closes {result : RelayEnd} (stage : s.stage = .closing (some result)) :
      Change shutdown s .socketDone { s with stage := .over }
        [.note (.sessionEnded s.target result)]
  /-- The watcher is done while nobody waits for it. -/
  | watched {i : Input} {c : Bool} {events : List Event} (watching : s.watcher = .watching)
      (why : Watched shutdown s i c events) (elsewhere : ∀ result, s.stage ≠ .parting result) :
      Change shutdown s i { s with cancelled := c, watcher := .done } (events.map .note)
  /-- The watcher is done, and the socket is closed. -/
  | parts {i : Input} {c : Bool} {events : List Event} {result : RelayEnd}
      (watching : s.watcher = .watching) (why : Watched shutdown s i c events)
      (stage : s.stage = .parting result) :
      Change shutdown s i
        { s with cancelled := c, watcher := .done, stage := .closing (some result) }
        (events.map .note ++ [.close])

/-! ## Every step is one of these

The first five lemmas give `hears` and `takes` where they are `none`, for `Change.ignored`. A relay
is treated in two parts by its token, as `Session.relayStep` looks at the token before it looks at
the arm: `relay_change_called` and `relay_change_free`. -/

theorem hears_of_not_looking (i : Input) (h : ∀ d, s.stage ≠ .looking d) : s.hears i = none := by
  unfold hears
  split
  · exact absurd ‹_› (h _)
  · rfl

/-- An input that answers no question is heard by no session. -/
theorem hears_of_deaf (deaf : ∀ d : Lookup OpenLog, d.heard? i = none) : s.hears i = none := by
  unfold hears
  split
  · rw [deaf]
    rfl
  · rfl

theorem takes_of_not_item (h : ∀ item, i ≠ .relay (.item item)) : s.takes shutdown i = none := by
  unfold takes
  split
  · exact absurd rfl (h _)
  · rfl

theorem takes_of_token (i : Input) (token : (s.cancelled || shutdown) = true) :
    s.takes shutdown i = none := by
  unfold takes
  split
  · simp [token]
  · rfl

theorem takes_of_not_reading (i : Input)
    (h : ∀ r source, s.stage = .relaying r source → r.stage ≠ .reading) :
    s.takes shutdown i = none := by
  unfold takes
  split
  next r source item stage => simp [h r source stage]
  next => rfl

theorem relay_ignored {r : Relay.State} {source : OpenLog} (stage : s.stage = .relaying r source)
    {arm : Relay.Arm} (eq : s.relayStep shutdown r source arm = (s, []))
    (idle : s.takes shutdown (.relay arm) = none) :
    Change shutdown s (.relay arm) (s.relayStep shutdown r source arm).1
      (s.relayStep shutdown r source arm).2 := by
  rw [eq]
  exact .ignored _ (hears_of_not_looking _ (by simp [stage])) idle

theorem relay_ends {r : Relay.State} {source : OpenLog} {token : Bool}
    (stage : s.stage = .relaying r source) (called : (s.cancelled || shutdown) = token)
    {arm : Relay.Arm} {result : RelayEnd} {notes : List Event} {forwarded : Nat}
    (last : r.Ending token arm result notes forwarded) :
    Change shutdown s (.relay arm) ({ s with cancelled := true }.part result).1
      (notes.map .note ++ (.release source :: .note (.relayFinished forwarded result)
        :: ({ s with cancelled := true }.part result).2)) :=
  .ends stage (called.symm ▸ last)

/-- A relay that has been called off ends, if it does anything. -/
theorem relay_change_called {r : Relay.State} {source : OpenLog}
    (stage : s.stage = .relaying r source) (arm : Relay.Arm)
    (token : (s.cancelled || shutdown) = true) :
    Change shutdown s (.relay arm) (s.relayStep shutdown r source arm).1
      (s.relayStep shutdown r source arm).2 := by
  have idle := takes_of_token (.relay arm) token
  obtain ⟨at', forwarded⟩ := r
  cases at' with
  | ended result => exact relay_ignored stage (by simp [relayStep, token, Relay.State.next]) idle
  | reading =>
    simp only [relayStep, token]
    exact relay_ends stage token (.calledOff (Or.inl rfl))
  | resting =>
    simp only [relayStep, token]
    exact relay_ends stage token (.calledOff (Or.inr rfl))
  | writing o =>
    -- A write is not interrupted by the token: its own outcome decides how the relay ends.
    cases arm with
    | item | rested =>
      exact relay_ignored stage (by simp [relayStep, token, Relay.State.next]) idle
    | cancelled =>
      simp only [relayStep, token]
      cases o <;> exact relay_ends stage token (.interrupted rfl)
    | writeFailed reason =>
      have last : Relay.State.Ending ⟨.writing o, forwarded⟩ true (.writeFailed reason) _ _ _ :=
        .failed rfl
      simp only [relayStep, token]
      cases o <;> exact relay_ends stage token last
    | written =>
      simp only [relayStep, token]
      cases o with
      | line text => exact relay_ends stage token (.writtenLast rfl)
      | failure reason => exact relay_ends stage token (.told rfl)

/-- A relay that has not been called off reads, writes and rests in turn. -/
theorem relay_change_free {r : Relay.State} {source : OpenLog}
    (stage : s.stage = .relaying r source) (arm : Relay.Arm)
    (token : (s.cancelled || shutdown) = false) :
    Change shutdown s (.relay arm) (s.relayStep shutdown r source arm).1
      (s.relayStep shutdown r source arm).2 := by
  -- The stage and the arm together decide. An arm that does not belong to the stage is ignored, and
  -- for `Change.ignored` it must also be shown that nothing is taken from the log.
  have elsewhere : r.stage ≠ .reading → s.takes shutdown (.relay arm) = none :=
    fun other => takes_of_not_reading _ (by simp [stage, other])
  obtain ⟨at', forwarded⟩ := r
  cases at' with
  | ended result =>
    exact relay_ignored stage (by simp [relayStep, token, Relay.State.next]) (elsewhere (by simp))
  | reading =>
    cases arm with
    | cancelled | written | writeFailed | rested =>
      exact relay_ignored stage (by simp [relayStep, token, Relay.State.next])
        (takes_of_not_item (by simp))
    | item item =>
      simp only [relayStep, token]
      cases item with
      | line text => exact .reads (.line text) stage rfl token
      | failure reason => exact .reads (.failure reason) stage rfl token
      | finish => exact relay_ends stage token (.finished rfl)
  | resting =>
    cases arm with
    | cancelled | item | written | writeFailed =>
      exact relay_ignored stage (by simp [relayStep, token, Relay.State.next]) (elsewhere (by simp))
    | rested =>
      simp only [relayStep, token]
      exact .resumes stage rfl token
  | writing o =>
    cases arm with
    | cancelled | item | rested =>
      exact relay_ignored stage (by simp [relayStep, token, Relay.State.next]) (elsewhere (by simp))
    | writeFailed reason =>
      have last : Relay.State.Ending ⟨.writing o, forwarded⟩ false (.writeFailed reason) _ _ _ :=
        .failed rfl
      simp only [relayStep, token]
      cases o <;> exact relay_ends stage token last
    | written =>
      simp only [relayStep, token]
      cases o with
      | line text => exact .rests stage rfl token
      | failure reason => exact relay_ends stage token (.told rfl)

theorem relay_change {r : Relay.State} {source : OpenLog} (stage : s.stage = .relaying r source)
    (arm : Relay.Arm) :
    Change shutdown s (.relay arm) (s.relayStep shutdown r source arm).1
      (s.relayStep shutdown r source arm).2 := by
  cases token : s.cancelled || shutdown with
  | true => exact relay_change_called stage arm token
  | false => exact relay_change_free stage arm token

/-- A log is opened for the session by this answer. -/
def Input.opening : Input → List Act
  | .opened (.ok _) => [.opened]
  | _ => []

theorem Input.opening_eq_nil (h : ∀ source, i ≠ .opened (.ok source)) : i.opening = [] := by
  unfold opening
  split
  · exact absurd rfl (h _)
  · rfl

/-- What `Session.follow` makes of a look-up that opens a log last: the session is refused and
    apologises, or asks the next question. -/
theorem follow_cases (s : Session) (shutdown : Bool) {rest : Lookup OpenLog}
    (opensLast : rest.OpensLast) :
    ∃ events, (∀ e ∈ events, e.isOutcome = false) ∧
      ((∃ why, rest.skim = (events, .refused why) ∧ s.follow shutdown rest =
          ({ s with stage := .apologising }, events.map .note ++
            [.note (.sessionFailed s.target why), .send (apology s.target why)])) ∨
        ∃ d q, rest.skim = (events, d) ∧ d.OpensLast ∧ d.question? = some q ∧
          s.follow shutdown rest = ({ s with stage := .looking d }, events.map .note ++ [.ask q])) := by
  obtain ⟨last, quiet, ⟨why, ends⟩ | ⟨q, question⟩⟩ := opensLast.skim
  · refine ⟨rest.skim.1, quiet, Or.inl ⟨why, by rw [← ends], ?_⟩⟩
    simp only [follow, ends]
  · refine ⟨rest.skim.1, quiet, Or.inr ⟨rest.skim.2, q, rfl, last, question, ?_⟩⟩
    unfold follow
    -- What has a question is a question: the other three are excluded by `question`.
    cases next : rest.skim.2 with
    | found | refused | note => simp [next, Lookup.question?] at question
    | list | get | log =>
      simp only [next, Lookup.question?, Option.some.injEq] at question ⊢
      simp [question]

/-- `Session.start` is `Session.follow` on the look-up of the target, so a session is refused at
    once or asks its first question. -/
theorem start_cases (label : String) (tail : Option Int) (shutdown : Bool) (t : Target) :
    ∃ events : List Event, (∀ e ∈ events, e.isOutcome = false) ∧
      ((∃ why, Session.start label tail shutdown t =
          (⟨t, .apologising, false, .asleep⟩, .note (.sessionStarted t) :: (events.map .note ++
            [.note (.sessionFailed t why), .send (apology t why)]))) ∨
        ∃ d q, Session.start label tail shutdown t =
          (⟨t, .looking d, false, .asleep⟩,
            .note (.sessionStarted t) :: (events.map .note ++ [.ask q]))) := by
  obtain ⟨events, quiet, ⟨why, _, eq⟩ | ⟨d, q, _, _, _, eq⟩⟩ :=
    follow_cases ⟨t, .apologising, false, .asleep⟩ shutdown (Lookup.openTarget_opensLast label tail t)
  · exact ⟨events, quiet, Or.inl ⟨why, by rw [Session.start, eq]⟩⟩
  · exact ⟨events, quiet, Or.inr ⟨d, q, by rw [Session.start, eq]⟩⟩

/-- An answer that a look-up waits for. With a log in it the relay begins, or is over at once if the
    token is cancelled (`Change.opensLate`); without one `follow_cases` applies. -/
theorem follow_change {d rest : Lookup OpenLog} {x : Exchange} (stage : s.stage = .looking d)
    (opensLast : d.OpensLast) (hears : d.heard? i = some (x, rest)) :
    Change shutdown s i (s.follow shutdown rest).1
      (i.opening ++ (s.follow shutdown rest).2) := by
  rcases opensLast.heard hears with ⟨source, events, rfl, skim, quiet⟩ | ⟨given, opensLast⟩
  -- the first look at the token since the session began
  · simp only [follow, skim, beginRelay, Relay.State.start]
    cases token : s.cancelled || shutdown with
    | true => exact .opensLate stage hears skim quiet token
    | false =>
      have change := Change.opens (s := s) stage hears skim quiet token
      simpa [Relay.State.enter, Input.opening] using change
  · rw [Input.opening_eq_nil given, List.nil_append]
    obtain ⟨events, quiet, ⟨why, skim, eq⟩ | ⟨d', q, skim, last, question, eq⟩⟩ :=
      s.follow_cases shutdown opensLast
    · rw [eq]
      exact .refused stage hears given skim quiet
    · rw [eq]
      exact .asks stage hears last given skim quiet question

/-- The watcher is done. A session that was waiting for it closes its socket, any other goes on. -/
theorem watched_change {c : Bool} {events : List Event} (watching : s.watcher = .watching)
    (why : Watched shutdown s i c events) :
    Change shutdown s i ({ s with cancelled := c }.watcherDone).1
      (events.map .note ++ ({ s with cancelled := c }.watcherDone).2) := by
  by_cases parting : ∃ result, s.stage = .parting result
  · obtain ⟨result, stage⟩ := parting
    simp only [watcherDone, stage, part]
    exact .parts watching why stage
  · have elsewhere : { s with cancelled := c }.watcherDone =
        ({ s with cancelled := c, watcher := .done }, []) := by
      simp only [watcherDone]
      split
      next result stage => exact absurd ⟨result, stage⟩ parting
      next => rfl
    rw [elsewhere, List.append_nil]
    exact .watched watching why (not_exists.mp parting)

theorem client_change (signal : Signal) :
    Change shutdown s (.client signal) (s.clientStep signal).1 (s.clientStep signal).2 := by
  have deaf : s.hears (.client signal) = none := hears_of_deaf fun d => by cases d <;> rfl
  unfold clientStep
  split
  next events watching leaving => exact watched_change watching (.left leaving)
  next => exact .ignored _ deaf (takes_of_not_item (by simp))

theorem called_change :
    Change shutdown s .watcherCalled (s.step shutdown .watcherCalled).1
      (s.step shutdown .watcherCalled).2 := by
  have deaf : s.hears .watcherCalled = none := hears_of_deaf fun d => by cases d <;> rfl
  have eq : s.step shutdown .watcherCalled =
      if s.watcher = .watching && (s.cancelled || shutdown) then s.watcherDone else (s, []) := by
    cases s.stage <;> simp [step]
  rw [eq]
  split
  next h =>
    simp only [Bool.and_eq_true, decide_eq_true_eq] at h
    exact watched_change h.1 (.called h.2)
  next => exact .ignored _ deaf (takes_of_not_item (by simp))

theorem socketDone_change :
    Change shutdown s .socketDone (s.step shutdown .socketDone).1
      (s.step shutdown .socketDone).2 := by
  have deaf : s.hears .socketDone = none := hears_of_deaf fun d => by cases d <;> rfl
  have idle : s.takes shutdown .socketDone = none := takes_of_not_item (by simp)
  cases stage : s.stage with
  | apologising => simpa only [step, stage] using Change.tells stage
  | closing result? =>
    cases result? with
    | none => simpa only [step, stage] using Change.closesEmpty stage
    | some result => simpa only [step, stage] using Change.closes stage
  | _ =>
    simp only [step, stage]
    exact .ignored _ deaf idle

/-- An answer changes a session whose look-up waits for it (`heard?`), and is ignored otherwise. -/
theorem answer_change (opensLast : ∀ d, s.stage = .looking d → d.OpensLast)
    (answers : (∃ a, i = .listed a) ∨ (∃ a, i = .got a) ∨ ∃ a, i = .opened a) :
    Change shutdown s i (s.step shutdown i).1 (s.step shutdown i).2 := by
  have idle : s.takes shutdown i = none := takes_of_not_item (by
    rcases answers with ⟨a, rfl⟩ | ⟨a, rfl⟩ | ⟨a, rfl⟩ <;> simp)
  by_cases looking : ∃ d, s.stage = .looking d
  · obtain ⟨d, stage⟩ := looking
    cases hears : d.heard? i with
    | none =>
      have eq : s.step shutdown i = (s, []) := by
        rcases answers with ⟨a, rfl⟩ | ⟨a, rfl⟩ | ⟨a, rfl⟩ <;>
          cases d <;> simp [Lookup.heard?] at hears <;> simp [step, stage]
      rw [eq]
      exact .ignored i (by simp [Session.hears, stage, hears]) idle
    | some p =>
      have change : Change shutdown s i (s.follow shutdown p.2).1
          (i.opening ++ (s.follow shutdown p.2).2) := follow_change stage (opensLast d stage) hears
      -- `Session.step` puts `Act.opened` in front if the answer is a log: that is `i.opening`.
      have eq : s.step shutdown i =
          ((s.follow shutdown p.2).1, i.opening ++ (s.follow shutdown p.2).2) := by
        rcases answers with ⟨a, rfl⟩ | ⟨a, rfl⟩ | ⟨a, rfl⟩ <;>
          cases d <;> simp [Lookup.heard?] at hears <;> subst hears <;>
          simp [step, stage, Input.opening]
        cases a <;> rfl
      rw [eq]
      exact change
  · have eq : s.step shutdown i = (s, []) := by
      cases stage : s.stage with
      | looking d => exact absurd ⟨d, stage⟩ looking
      | _ =>
        rcases answers with ⟨a, rfl⟩ | ⟨a, rfl⟩ | ⟨a, rfl⟩ <;> simp [step, stage]
    rw [eq]
    exact .ignored i (hears_of_not_looking i (not_exists.mp looking)) idle

/-- **Every step is a `Change`**, if the look-up that the session may be engaged in opens a log
    last. -/
theorem step_change (opensLast : ∀ d, s.stage = .looking d → d.OpensLast) (shutdown : Bool)
    (i : Input) : Change shutdown s i (s.step shutdown i).1 (s.step shutdown i).2 := by
  cases i with
  | listed a => exact answer_change opensLast (Or.inl ⟨a, rfl⟩)
  | got a => exact answer_change opensLast (Or.inr (Or.inl ⟨a, rfl⟩))
  | opened a => exact answer_change opensLast (Or.inr (Or.inr ⟨a, rfl⟩))
  | relay arm =>
    cases stage : s.stage with
    | relaying r source => simpa only [step, stage] using relay_change stage arm
    | _ =>
      have deaf : s.hears (.relay arm) = none := hears_of_deaf fun d => by cases d <;> rfl
      simp only [step, stage]
      exact .ignored _ deaf (takes_of_not_reading _ (by simp [stage]))
  | socketDone => exact socketDone_change
  | client signal =>
    have eq : s.step shutdown (.client signal) = s.clientStep signal := by
      cases s.stage <;> simp [step]
    rw [eq]
    exact client_change signal
  | watcherCalled => exact called_change

end Session

end PodTail
