import PodTail.Proofs.Session.Step

/-!
# What a session has done

`History.after` folds `Session.step` over a list of inputs, each with the shutdown token as it is at
that moment, and collects what happens: the answers, what the relay took from the log, and the acts.
The list is arbitrary, so what is proved of all histories holds whatever the cluster, the client and
the log do and in whatever order.

The invariant is `Stands`. It relates the stage of a session to the *deeds* it has done, which are
those of its acts that can be told from outside: opening and releasing a log, what goes over the
socket, and the notes on the outcome (`Act.isDeed`). There are two courses, and `Stands` has a
constructor for each point on them:

- the look-up is refused: `sessionFailed` is noted, the apology is sent, the socket is closed;
- a log is opened, one frame after the other is sent (`sends`), the log is released, and behind that
  comes `Parted`: the close and `sessionEnded`.

`Stands.change` is the step lemma, one case for each constructor of `Session.Change`, and
`History.stands_after` the induction. Which calls a session has made is part of the invariant as
well: `Lookup.Goes` says that the answers so far are those of a run of the look-up with this
outcome.
-/

set_option autoImplicit false

namespace PodTail

namespace Session

/-! ## Histories -/

/-- What has happened to a session, from its beginning on. -/
structure History where
  session : Session
  answered : List Exchange
  /-- What has been read from the log. -/
  taken : List Relay.Item
  acts : List Act

namespace History

/-- A session that begins. -/
def start (label : String) (tail : Option Int) (t : Target) (shutdown : Bool) : History :=
  let (session, acts) := Session.start label tail shutdown t
  ⟨session, [], [], acts⟩

/-- A session takes an input; the shutdown token comes with it. -/
def step (h : History) (i : Bool × Input) : History :=
  let (session, acts) := h.session.step i.1 i.2
  ⟨session, h.answered ++ (h.session.hears i.2).toList,
    h.taken ++ (h.session.takes i.1 i.2).toList, h.acts ++ acts⟩

/-- A session that has begun and taken inputs. -/
def after (label : String) (tail : Option Int) (t : Target) (shutdown : Bool)
    (inputs : List (Bool × Input)) : History :=
  inputs.foldl step (start label tail t shutdown)

theorem after_concat (label : String) (tail : Option Int) (t : Target) (shutdown : Bool)
    (inputs : List (Bool × Input)) (i : Bool × Input) :
    after label tail t shutdown (inputs ++ [i]) = (after label tail t shutdown inputs).step i := by
  rw [after, List.foldl_append]
  rfl

end History

/-! ## Deeds

`deeds` filters the acts. The lemmas tagged for `simp` let it compute on the lists of acts that the
constructors of `Change` give, and `deeds_notes` drops the notes which are about no outcome. `sends`
and `items` are the deeds of a relay and what it has read for them, line for line. -/

/-- What can be told from outside. -/
def Act.isDeed : Act → Bool
  | .ask _ => false
  | .note e => e.isOutcome
  | _ => true

/-- The deeds among some acts. -/
def deeds (acts : List Act) : List Act :=
  acts.filter Act.isDeed

@[simp]
theorem deeds_append (acts more : List Act) : deeds (acts ++ more) = deeds acts ++ deeds more :=
  List.filter_append ..

@[simp]
theorem deeds_nil : deeds [] = [] :=
  rfl

@[simp]
theorem deeds_cons (a : Act) (acts : List Act) :
    deeds (a :: acts) = if a.isDeed then a :: deeds acts else deeds acts :=
  List.filter_cons

theorem deeds_notes {events : List Event} (quiet : ∀ e ∈ events, e.isOutcome = false) :
    deeds (events.map .note) = [] := by
  rw [deeds, List.filter_eq_nil_iff]
  intro a mem
  obtain ⟨e, noted, rfl⟩ := List.mem_map.mp mem
  simp [Act.isDeed, quiet e noted]

/-- The sending of the frames of some lines, and of an error frame behind them if there is one. -/
def sends (t : Target) (lines : List String) (error : Option String) : List Act :=
  lines.map (fun text => .send (t.frame text))
    ++ (error.map fun reason => .send (Relay.errorFrame reason)).toList

/-- The items that these are the frames of. -/
def items (lines : List String) (error : Option String) : List Relay.Item :=
  lines.map .line ++ (error.map .failure).toList

theorem sends_line (t : Target) (lines : List String) (text : String) :
    sends t (lines ++ [text]) none = sends t lines none ++ [.send (t.frame text)] := by
  simp [sends]

theorem sends_failure (t : Target) (lines : List String) (reason : String) :
    sends t lines (some reason) = sends t lines none ++ [.send (Relay.errorFrame reason)] := by
  simp [sends]

theorem items_line (lines : List String) (text : String) :
    items (lines ++ [text]) none = items lines none ++ [.line text] := by
  simp [items]

theorem items_failure (lines : List String) (reason : String) :
    items lines (some reason) = items lines none ++ [.failure reason] := by
  simp [items]

/-! ## Where a session stands

The inversion lemmas `looking_inv` and `relaying_inv` give what the invariant says at the two stages
from which most steps start. -/

/-- What a session has done since it let its log go. -/
inductive Parted (t : Target) : Stage → List Act → Prop where
  | parting (result : RelayEnd) : Parted t (.parting result) []
  | closing (result : RelayEnd) : Parted t (.closing (some result)) [.close]
  | over (result : RelayEnd) : Parted t .over [.close, .note (.sessionEnded t result)]

/-- What a session has been answered, what it has read and what it has done, by where it is. -/
inductive Stands (label : String) (tail : Option Int) (t : Target) :
    Stage → List Exchange → List Relay.Item → List Act → Prop where
  /-- What is still to be asked is what is left of the look-up. -/
  | looking {d : Lookup OpenLog} {q : Lookup.Question} {answered : List Exchange}
      (opensLast : d.OpensLast) (question : d.question? = some q)
      (left : ∀ calls outcome, Lookup.Goes d calls outcome ↔
        Lookup.Goes (Lookup.openTarget label tail t) (answered ++ calls) outcome) :
      Stands label tail t (.looking d) answered [] []
  | apologising {answered : List Exchange} {why : StreamFailure}
      (goes : Lookup.Goes (Lookup.openTarget label tail t) answered (.error why)) :
      Stands label tail t .apologising answered []
        [.note (.sessionFailed t why), .send (apology t why)]
  | excused {stage : Stage} {answered : List Exchange} {why : StreamFailure}
      (at' : stage = .closing none ∨ stage = .over)
      (goes : Lookup.Goes (Lookup.openTarget label tail t) answered (.error why)) :
      Stands label tail t stage answered []
        [.note (.sessionFailed t why), .send (apology t why), .close]
  /-- An error is the last thing read: it is still being written. -/
  | relaying {r : Relay.State} {source : OpenLog} {answered : List Exchange} {lines : List String}
      {error : Option String}
      (goes : Lookup.Goes (Lookup.openTarget label tail t) answered (.ok source))
      (last : error = none ∨ ∃ reason, r.stage = .writing (.failure reason)) :
      Stands label tail t (.relaying r source) answered (items lines error)
        (.opened :: sends t lines error)
  | parted {stage : Stage} {source : OpenLog} {answered : List Exchange} {lines : List String}
      {error : Option String} {last : List Relay.Item} {rest : List Act}
      (goes : Lookup.Goes (Lookup.openTarget label tail t) answered (.ok source))
      (at' : Parted t stage rest) (finish : last = [] ∨ last = [.finish]) :
      Stands label tail t stage answered (items lines error ++ last)
        (.opened :: (sends t lines error ++ .release source :: rest))

section

variable {label : String} {tail : Option Int} {t : Target} {s s' : Session} {i : Input}
  {shutdown : Bool} {answered : List Exchange} {taken : List Relay.Item} {done acts : List Act}

theorem Stands.looking_inv {d : Lookup OpenLog}
    (stands : Stands label tail t (.looking d) answered taken done) :
    d.OpensLast ∧ taken = [] ∧ done = [] ∧
      ∀ calls outcome, Lookup.Goes d calls outcome ↔
        Lookup.Goes (Lookup.openTarget label tail t) (answered ++ calls) outcome := by
  cases stands with
  | looking opensLast _ left => exact ⟨opensLast, rfl, rfl, left⟩
  | excused at' => simp at at'
  | parted _ at' => cases at'

theorem Stands.relaying_inv {r : Relay.State} {source : OpenLog}
    (stands : Stands label tail t (.relaying r source) answered taken done) :
    ∃ lines error, Lookup.Goes (Lookup.openTarget label tail t) answered (.ok source) ∧
      (error = none ∨ ∃ reason, r.stage = .writing (.failure reason)) ∧
      taken = items lines error ∧ done = .opened :: sends t lines error := by
  cases stands with
  | relaying goes last => exact ⟨_, _, goes, last, rfl, rfl⟩
  | excused at' => simp at at'
  | parted _ at' => cases at'

theorem Stands.opensLast (stands : Stands label tail t s.stage answered taken done)
    (d : Lookup OpenLog) (stage : s.stage = .looking d) : d.OpensLast := by
  rw [stage] at stands
  exact stands.looking_inv.1

theorem Change.target (change : Change shutdown s i s' acts) : s'.target = s.target := by
  cases change with
  | ends =>
    unfold part
    split <;> rfl
  | _ => rfl

/-- `Lookup.Goes` over an answer: a run of what is left is a run of the look-up with that answer in
    front. -/
theorem goes_heard {d rest : Lookup OpenLog} {x : Exchange} {calls : List Exchange}
    {outcome : Except StreamFailure OpenLog} (hears : d.heard? i = some (x, rest)) :
    Lookup.Goes d (x :: calls) outcome ↔ Lookup.Goes rest calls outcome := by
  -- Of all pairs `heard?` leaves the three in which the input answers the question.
  cases d <;> cases i <;> simp only [Lookup.heard?, Option.some.injEq, Prod.mk.injEq,
    reduceCtorEq] at hears
  case list.listed =>
    obtain ⟨rfl, rfl⟩ := hears
    exact ⟨fun goes => by cases goes; assumption, .list _⟩
  case get.got =>
    obtain ⟨rfl, rfl⟩ := hears
    exact ⟨fun goes => by cases goes; assumption, .get _⟩
  case log.opened =>
    obtain ⟨rfl, rfl⟩ := hears
    exact ⟨fun goes => by cases goes; assumption, .log _⟩

/-- The clause `left` of `Stands.looking` over one more answer and the notes behind it. -/
theorem goes_after {d d' rest : Lookup OpenLog} {x : Exchange} {events : List Event}
    (left : ∀ calls outcome, Lookup.Goes d calls outcome ↔
      Lookup.Goes (Lookup.openTarget label tail t) (answered ++ calls) outcome)
    (hears : d.heard? i = some (x, rest)) (skim : rest.skim = (events, d'))
    (calls : List Exchange) (outcome : Except StreamFailure OpenLog) :
    Lookup.Goes d' calls outcome ↔
      Lookup.Goes (Lookup.openTarget label tail t) (answered ++ [x] ++ calls) outcome := by
  -- from right to left: put the answer in front, then leave out the notes
  have skimmed : rest.skim.2.Goes calls outcome ↔ rest.Goes calls outcome := Lookup.goes_skim
  rw [skim] at skimmed
  rw [skimmed, ← goes_heard hears, left, List.append_assoc]
  rfl

/-- An answer that ends what is left of a look-up ends the look-up. -/
theorem goes_ended {d d' rest : Lookup OpenLog} {x : Exchange} {events : List Event}
    {outcome : Except StreamFailure OpenLog}
    (left : ∀ calls outcome, Lookup.Goes d calls outcome ↔
      Lookup.Goes (Lookup.openTarget label tail t) (answered ++ calls) outcome)
    (hears : d.heard? i = some (x, rest)) (skim : rest.skim = (events, d'))
    (ended : d'.Goes [] outcome) :
    Lookup.Goes (Lookup.openTarget label tail t) (answered ++ [x]) outcome := by
  have goes := (goes_after left hears skim [] outcome).mp ended
  rwa [List.append_nil] at goes

theorem hears_of_looking {d rest : Lookup OpenLog} {x : Exchange} (stage : s.stage = .looking d)
    (hears : d.heard? i = some (x, rest)) : s.hears i = some x := by
  simp [Session.hears, stage, hears]

theorem takes_of_looking {d : Lookup OpenLog} (stage : s.stage = .looking d) :
    s.takes shutdown i = none :=
  takes_of_not_reading i (by simp [stage])

theorem hears_of_relaying {r : Relay.State} {source : OpenLog}
    (stage : s.stage = .relaying r source) : s.hears i = none :=
  hears_of_not_looking i (by simp [stage])

theorem Watched.deaf {c : Bool} {events : List Event} (why : Watched shutdown s i c events) :
    s.hears i = none ∧ s.takes shutdown i = none ∧ ∀ e ∈ events, e.isOutcome = false := by
  have deaf : ∀ d : Lookup OpenLog, d.heard? i = none := by
    cases why <;> intro d <;> cases d <;> rfl
  refine ⟨hears_of_deaf deaf, takes_of_not_item (by cases why <;> simp), ?_⟩
  cases why with
  | @left signal _ leaving =>
    cases signal <;> simp only [Signal.leaving, Option.some.injEq, reduceCtorEq] at leaving <;>
      subst leaving <;> simp [Event.isOutcome]
  | called => simp

/-- `Session.part` begins what `Parted` describes: it closes the socket at once if the watcher is
    done, and waits for the watcher otherwise. -/
theorem Parted.part (t : Target) (s : Session) (result : RelayEnd) :
    Parted t (s.part result).1.stage (deeds (s.part result).2) := by
  unfold Session.part
  split
  · exact .closing result
  · exact .parting result

/-- The last thing that an ending relay has read is the end of the log, if it is anything. -/
theorem takes_of_ending {r : Relay.State} {source : OpenLog} {arm : Relay.Arm} {result : RelayEnd}
    {notes : List Event} {forwarded : Nat} (stage : s.stage = .relaying r source)
    (last : r.Ending (s.cancelled || shutdown) arm result notes forwarded) :
    (s.takes shutdown (.relay arm)).toList = [] ∨
      (s.takes shutdown (.relay arm)).toList = [.finish] := by
  generalize token : (s.cancelled || shutdown) = called at last
  -- Only `finished` takes what it ends on; the others do not read, or have a cancelled token.
  cases last with
  | finished reading => exact Or.inr (by simp [takes, stage, reading, token])
  | calledOff | interrupted | writtenLast =>
    rw [takes_of_token _ token]
    exact Or.inl rfl
  | failed | told =>
    rw [takes_of_not_item (by simp)]
    exact Or.inl rfl

theorem ending_quiet {r : Relay.State} {token : Bool} {arm : Relay.Arm} {result : RelayEnd}
    {notes : List Event} {forwarded : Nat} (last : r.Ending token arm result notes forwarded) :
    ∀ e ∈ notes, e.isOutcome = false := by
  cases last with
  | @failed _ o reason writing => cases o <;> simp [Relay.Outgoing.failureNotes, Event.isOutcome]
  | finished | calledOff | interrupted | writtenLast | told => simp

theorem Stands.relaying_start {source : OpenLog}
    (goes : Lookup.Goes (Lookup.openTarget label tail t) answered (.ok source)) :
    Stands label tail t (.relaying ⟨.reading, 0⟩ source) answered (items [] none)
      (.opened :: sends t [] none) :=
  .relaying goes (Or.inl rfl)

/-- As long as no error has been read, a relay may wait for anything. -/
theorem Stands.goes_on {r r' : Relay.State} {source : OpenLog}
    (stands : Stands label tail t (.relaying r source) answered taken done)
    (fine : ∀ reason, r.stage ≠ .writing (.failure reason)) :
    Stands label tail t (.relaying r' source) answered taken done := by
  obtain ⟨lines, error, goes, last, rfl, rfl⟩ := stands.relaying_inv
  obtain rfl : error = none := last.resolve_right fun ⟨reason, writing⟩ => fine reason writing
  exact .relaying goes (Or.inl rfl)

/-- A relay that ends lets its log go. -/
theorem Stands.lets_go {r : Relay.State} {source : OpenLog} {stage : Stage} {rest : List Act}
    {last : List Relay.Item} (stands : Stands label tail t (.relaying r source) answered taken done)
    (at' : Parted t stage rest) (finish : last = [] ∨ last = [.finish]) :
    Stands label tail t stage answered (taken ++ last) (done ++ .release source :: rest) := by
  obtain ⟨lines, error, goes, _, rfl, rfl⟩ := stands.relaying_inv
  exact .parted goes at' finish

/-- What is read for a write is what the write sends. -/
theorem Stands.reads {r r' : Relay.State} {source : OpenLog} {o : Relay.Outgoing}
    (stands : Stands label tail t (.relaying r source) answered taken done)
    (reading : r.stage = .reading) (writing : r'.stage = .writing o) :
    Stands label tail t (.relaying r' source) answered (taken ++ [o.read])
      (done ++ [.send (o.frame t)]) := by
  obtain ⟨lines, error, goes, last, rfl, rfl⟩ := stands.relaying_inv
  -- A relay that reads is not writing an error frame, so no error has been read before this.
  obtain rfl : error = none := by simpa [reading] using last
  cases o with
  | line text =>
    rw [Relay.Outgoing.read, Relay.Outgoing.frame, ← items_line, List.cons_append, ← sends_line]
    exact .relaying goes (Or.inl rfl)
  | failure reason =>
    rw [Relay.Outgoing.read, Relay.Outgoing.frame, ← items_failure, List.cons_append, ← sends_failure]
    exact .relaying goes (Or.inr ⟨reason, writing⟩)

theorem notes_quiet (o : Relay.Outgoing) : ∀ e ∈ o.notes, e.isOutcome = false := by
  cases o <;> simp [Relay.Outgoing.notes, Event.isOutcome]

/-- **A step keeps `Stands`**, with the answer, the items and the deeds of the step added. -/
theorem Stands.change (stands : Stands label tail t s.stage answered taken done)
    (target : s.target = t) (change : Change shutdown s i s' acts) :
    Stands label tail t s'.stage (answered ++ (s.hears i).toList)
      (taken ++ (s.takes shutdown i).toList) (done ++ deeds acts) := by
  cases change with
  | ignored i deaf idle => simpa [deaf, idle] using stands
  | asks stage hears opensLast given skim quiet question =>
    rw [stage] at stands
    obtain ⟨_, rfl, rfl, left⟩ := stands.looking_inv
    have next := Stands.looking opensLast question (goes_after left hears skim)
    simpa [hears_of_looking stage hears, takes_of_looking stage, deeds_notes quiet, Act.isDeed]
      using next
  | refused stage hears given skim quiet =>
    -- `goes_ended` turns what was left of the look-up and this answer into a whole run of it.
    rw [stage] at stands
    obtain ⟨_, rfl, rfl, left⟩ := stands.looking_inv
    have goes := goes_ended left hears skim (.refused _)
    simpa [hears_of_looking stage hears, takes_of_looking stage, deeds_notes quiet, Act.isDeed,
      target, Event.isOutcome] using Stands.apologising goes
  | opens stage hears skim quiet token =>
    rw [stage] at stands
    obtain ⟨_, rfl, rfl, left⟩ := stands.looking_inv
    have goes := goes_ended left hears skim (.found _)
    simpa [hears_of_looking stage hears, takes_of_looking stage, deeds_notes quiet, Act.isDeed,
      items, sends] using Stands.relaying_start goes
  | opensLate stage hears skim quiet token =>
    rw [stage] at stands
    obtain ⟨_, rfl, rfl, left⟩ := stands.looking_inv
    have goes := goes_ended left hears skim (.found _)
    -- The log is opened and released in one step, with nothing relayed between.
    have next := (Stands.relaying_start goes).lets_go (.parting .cancelled) (Or.inl rfl)
    simpa [hears_of_looking stage hears, takes_of_looking stage, deeds_notes quiet, Act.isDeed,
      Event.isOutcome, items, sends] using next
  | @reads r source o stage reading token =>
    rw [stage] at stands
    have next : Stands label tail t (.relaying ⟨.writing o, r.forwarded⟩ source) answered
        (taken ++ [o.read]) (done ++ [.send (o.frame t)]) := stands.reads reading rfl
    have takes : s.takes shutdown (.relay (.item o.read)) = some o.read := by
      simp [Session.takes, stage, reading, token]
    simpa [hears_of_relaying stage, takes, deeds_notes (notes_quiet o), Act.isDeed, target]
      using next
  | rests stage writing token =>
    rw [stage] at stands
    simpa [hears_of_relaying stage, takes_of_not_item] using stands.goes_on (by simp [writing])
  | resumes stage resting token =>
    rw [stage] at stands
    simpa [hears_of_relaying stage, takes_of_not_item] using stands.goes_on (by simp [resting])
  | @ends r source arm result notes forwarded stage last =>
    rw [stage] at stands
    have next := stands.lets_go (Parted.part t { s with cancelled := true } result)
      (takes_of_ending stage last)
    simpa [hears_of_relaying stage, deeds_notes (ending_quiet last), Act.isDeed, Event.isOutcome]
      using next
  | tells stage =>
    -- Of the constructors of `Stands` only one is at this stage; the others are discharged.
    rw [stage] at stands
    have deaf : s.hears .socketDone = none := hears_of_not_looking _ (by simp [stage])
    cases stands with
    | apologising goes =>
      simpa [deaf, takes_of_not_item, Act.isDeed] using Stands.excused (Or.inl rfl) goes
    | excused at' => simp at at'
    | parted _ at' => cases at'
  | closesEmpty stage =>
    rw [stage] at stands
    have deaf : s.hears .socketDone = none := hears_of_not_looking _ (by simp [stage])
    cases stands with
    | excused _ goes =>
      simpa [deaf, takes_of_not_item] using Stands.excused (Or.inr rfl) goes
    | parted _ at' => cases at'
  | @closes result stage =>
    rw [stage] at stands
    have deaf : s.hears .socketDone = none := hears_of_not_looking _ (by simp [stage])
    cases stands with
    | excused at' => simp at at'
    | parted goes at' finish =>
      cases at'
      simpa [deaf, takes_of_not_item, Act.isDeed, Event.isOutcome, target]
        using Stands.parted goes (.over result) finish
  | watched watching why elsewhere =>
    obtain ⟨deaf, idle, quiet⟩ := why.deaf
    simpa [deaf, idle, deeds_notes quiet] using stands
  | parts watching why stage =>
    obtain ⟨deaf, idle, quiet⟩ := why.deaf
    rw [stage] at stands
    cases stands with
    | excused at' => simp at at'
    | parted goes at' finish =>
      cases at'
      simpa [deaf, idle, deeds_notes quiet, Act.isDeed] using Stands.parted goes (.closing _) finish

/-! ## Every history

`History.after_keeps` is the induction over the inputs, once for every property of histories. Here
it is used with `InPlace`: `Stands`, and that the target of the session does not change. -/

theorem History.start_target (label : String) (tail : Option Int) (t : Target) (shutdown : Bool) :
    (start label tail t shutdown).session.target = t := by
  obtain ⟨events, _, ⟨why, eq⟩ | ⟨d, q, eq⟩⟩ := start_cases label tail shutdown t
  · simp only [start, eq]
  · simp only [start, eq]

/-- `Stands` for a session that begins, by what `Session.follow` makes of its look-up. -/
theorem stands_start (label : String) (tail : Option Int) (t : Target) (shutdown : Bool) :
    Stands label tail t (History.start label tail t shutdown).session.stage [] []
      (deeds (History.start label tail t shutdown).acts) := by
  have last := Lookup.openTarget_opensLast label tail t
  simp only [History.start, Session.start]
  obtain ⟨events, quiet, ⟨why, skim, eq⟩ | ⟨d, q, skim, opensLast, question, eq⟩⟩ :=
    follow_cases ⟨t, .apologising, false, .asleep⟩ shutdown last
  · have goes : (Lookup.openTarget label tail t).skim.2.Goes [] (.error why) :=
      skim ▸ .refused why
    rw [Lookup.goes_skim] at goes
    simpa [eq, deeds_notes quiet, Act.isDeed, Event.isOutcome] using Stands.apologising goes
  · have left : ∀ calls outcome, d.Goes calls outcome ↔
        (Lookup.openTarget label tail t).Goes ([] ++ calls) outcome := by
      intro calls outcome
      rw [List.nil_append, ← Lookup.goes_skim (d := Lookup.openTarget label tail t), skim]
    simpa [eq, deeds_notes quiet, Act.isDeed, Event.isOutcome] using Stands.looking opensLast question left

/-- What holds at the start and is kept by every step holds of every history. -/
theorem History.after_keeps {P : History → Prop} {first : Bool}
    (begins : P (start label tail t first)) (keeps : ∀ h i, P h → P (h.step i))
    (inputs : List (Bool × Input)) : P (after label tail t first inputs) := by
  -- over any history to begin with, so that the induction goes through `foldl`
  have run : ∀ h, P h → P (inputs.foldl step h) := by
    induction inputs with
    | nil => exact fun h holds => holds
    | cons i inputs ih => exact fun h holds => ih (h.step i) (keeps h i holds)
  exact run _ begins

/-- The session of a history is about its target, and has done what it stands for. -/
def History.InPlace (label : String) (tail : Option Int) (t : Target) (h : History) : Prop :=
  h.session.target = t ∧ Stands label tail t h.session.stage h.answered h.taken (deeds h.acts)

theorem History.InPlace.change {h : History} (place : h.InPlace label tail t) (i : Bool × Input) :
    Change i.1 h.session i.2 (h.step i).session (h.session.step i.1 i.2).2 :=
  step_change place.2.opensLast i.1 i.2

theorem History.InPlace.step {h : History} (place : h.InPlace label tail t) (i : Bool × Input) :
    (h.step i).InPlace label tail t := by
  have change := place.change i
  refine ⟨change.target.trans place.1, ?_⟩
  simpa only [History.step, deeds_append] using place.2.change place.1 change

theorem History.inPlace_start (label : String) (tail : Option Int) (t : Target) (first : Bool) :
    (start label tail t first).InPlace label tail t :=
  ⟨start_target label tail t first, stands_start label tail t first⟩

/-- `InPlace` holds after every list of inputs. -/
theorem History.stands_after (label : String) (tail : Option Int) (t : Target) (first : Bool)
    (inputs : List (Bool × Input)) : (after label tail t first inputs).InPlace label tail t :=
  after_keeps (inPlace_start label tail t first) (fun _ i place => place.step i) inputs

end

end Session

end PodTail
