import PodTail.Proofs.Service.World
import PodTail.Proofs.Session.Watching

/-!
# How far a line goes

`settleLine n k` makes at most `n` moves with line `k`. This file shows that `patience` is enough of
them: the line comes to where it waits, for an answer, for its log or for time to pass. The result
is `settleLine_still`, and three things go into it.

* A measure. `Stage.work feed` bounds the moves that a session has before it, and `move_work` shows
  that every move makes it smaller. `work_lt_patience` compares it with the fuel that `goOn` gives.
* Waiting is stable. `move_cases` says what a move depends on: the stage, the token, the feed and
  the clock. So a line that waits goes on waiting until its `wakes` has come (`move_wait`).
* Lines are separate. `Seated` says that line `k` belongs to session `k`. Then a move of line `k`
  changes no other line and no other session (`Elsewhere`), and the others stay still
  (`Still.elsewhere`).
-/

set_option autoImplicit false

namespace PodTail

open Session (Act Attended)

namespace Session

variable {s : Session}

/-! ## How far a session has to go

The measure is four for each step of the log that is left, plus what the relay does with the line it
has in hand: write it, rest, and read again. A relay that ends leaves two moves at most. -/

/-- How many moves a session can make at most before it waits, with so much left of its log. -/
def Stage.work (feed : Feed) : Stage → Nat
  | .looking _ | .over => 0
  | .closing _ => 1
  | .apologising | .parting _ => 2
  | .relaying r _ =>
    4 * feed.length +
      match r.stage with
      | .reading => 3
      | .resting => 4
      | .writing (.line _) => 5
      | .writing (.failure _) => 3
      | .ended _ => 0

theorem work_of_returned {stage : Stage} (returned : stage.returned = true) (feed : Feed) :
    stage.work feed ≤ 2 := by
  cases stage with
  | looking | apologising | relaying => cases returned
  | _ => simp [Stage.work]

theorem work_le (stage : Stage) (feed : Feed) : stage.work feed ≤ 4 * feed.length + 5 := by
  cases stage with
  | relaying r source =>
    simp only [Stage.work]
    split <;> omega
  | _ =>
    simp only [Stage.work]
    omega

/-- A session whose relay ends has two moves left at most, for the watcher and for the socket. -/
theorem work_endRelay (s : Session) (source : OpenLog) (before after : List Event)
    (result : RelayEnd) (feed : Feed) :
    (s.endRelay source before after result).1.stage.work feed < 3 :=
  Nat.lt_succ_of_le (work_of_returned (part_result { s with cancelled := true } result).1 feed)

section

variable {r : Relay.State} {source : OpenLog} {shutdown : Bool}

theorem work_called (stage : s.stage = .relaying r source)
    (waiting : r.stage = .reading ∨ r.stage = .resting)
    (token : (s.cancelled || shutdown) = true) (feed : Feed) :
    (s.step shutdown (.relay .cancelled)).1.stage.work feed < 3 := by
  obtain ⟨at', forwarded⟩ := r
  rcases waiting with rfl | rfl
  · simp only [step, stage, relayStep, token]
    exact work_endRelay ..
  · simp only [step, stage, relayStep, token]
    exact work_endRelay ..

theorem work_written {o : Relay.Outgoing} (stage : s.stage = .relaying r source)
    (writing : r.stage = .writing o) (feed : Feed) :
    (s.step shutdown (.relay .written)).1.stage.work feed < s.stage.work feed := by
  obtain ⟨at', forwarded⟩ := r
  cases writing
  cases o with
  | failure reason =>
    have ended : (s.step shutdown (.relay .written)).1.stage.work feed < 3 := by
      simp only [step, stage, relayStep]
      cases token : s.cancelled || shutdown
      · exact work_endRelay ..
      · exact work_endRelay ..
    refine Nat.lt_of_lt_of_le ended ?_
    rw [stage]
    simp [Stage.work]
  | line text =>
    cases token : s.cancelled || shutdown with
    | true =>
      have ended : (s.step shutdown (.relay .written)).1.stage.work feed < 3 := by
        simp only [step, stage, relayStep, token]
        exact work_endRelay ..
      refine Nat.lt_of_lt_of_le ended ?_
      rw [stage]
      simp only [Stage.work]
      omega
    | false => simp [step, stage, relayStep, token, Relay.State.next, Relay.State.enter, Stage.work]

theorem work_rested (stage : s.stage = .relaying r source) (resting : r.stage = .resting)
    (token : (s.cancelled || shutdown) = false) (feed : Feed) :
    (s.step shutdown (.relay .rested)).1.stage.work feed < s.stage.work feed := by
  obtain ⟨at', forwarded⟩ := r
  cases resting
  simp [step, stage, relayStep, token, Relay.State.next, Relay.State.enter, Stage.work]

theorem work_finished (stage : s.stage = .relaying r source) (reading : r.stage = .reading)
    (token : (s.cancelled || shutdown) = false) (feed : Feed) :
    (s.step shutdown (.relay (.item .finish))).1.stage.work feed < 3 := by
  obtain ⟨at', forwarded⟩ := r
  cases reading
  simp only [step, stage, relayStep, token]
  exact work_endRelay ..

/-- To read an item enters a stage of more work, but uses up a step of the log, which counts four.
    -/
theorem work_read (stage : s.stage = .relaying r source) (reading : r.stage = .reading)
    (token : (s.cancelled || shutdown) = false) (o : Relay.Outgoing) (f : Feed.Step) (feed : Feed) :
    (s.step shutdown (.relay (.item o.read))).1.stage.work feed < s.stage.work (f :: feed) := by
  obtain ⟨at', forwarded⟩ := r
  cases reading
  cases o with
  | line text =>
    simp [step, stage, relayStep, token, Relay.Outgoing.read, Relay.State.next, Relay.State.enter,
      Stage.work]
    omega
  | failure reason =>
    simp [step, stage, relayStep, token, Relay.Outgoing.read, Relay.State.next, Relay.State.enter,
      Stage.work]

end

end Session

/-- `Session.attended_after` for the sessions of a service. -/
theorem Service.Histories.attended {s : Service} {acts : List (Nat × Act)}
    (histories : s.Histories acts) {i : Nat} {session : Session}
    (found : s.sessions[i]? = some session) : Attended session := by
  obtain ⟨t, first, inputs, rfl, _⟩ := histories.each i session found
  exact Session.attended_after ..

namespace World

variable {settings : Settings} {m : Memory} {w w' : World Memory}

/-! ## What a line does next

`move_work` follows the case split of `move`, with one `work_…` lemma from above for each input that
a move gives. -/

/-- A move keeps the session of its line, by `own_move`. -/
theorem session_go {s : Session} {l l' : Line} {input : Option Session.Input}
    (goes : move w s l = .go l' input) : l'.session = l.session := by
  have own := own_move w s l
  rw [goes] at own
  exact congrArg Prod.fst own.1

theorem session_wait {s : Session} {l l' : Line} (waits : move w s l = .wait l') :
    l'.session = l.session := by
  have own := own_move w s l
  rw [waits] at own
  exact congrArg Prod.fst own

theorem go_of_pause {now ms : Nat} {l l' after : Line} {input input' : Option Session.Input}
    (goes : pause now ms l after input = .go l' input') : input' = input ∧ l'.feed = after.feed := by
  unfold pause at goes
  split at goes
  · split at goes
    · obtain ⟨rfl, rfl⟩ := Move.go.inj goes
      exact ⟨rfl, rfl⟩
    · cases goes
  · split at goes
    · obtain ⟨rfl, rfl⟩ := Move.go.inj goes
      exact ⟨rfl, rfl⟩
    · cases goes

/-- The session behind a move: a step of it if the move gives it an input, otherwise itself. -/
def Move.session (shutdown : Bool) (s : Session) : Move → Session
  | .go _ (some input) => (s.step shutdown input).1
  | _ => s

/-- **Every move makes the measure smaller.** `Attended` is needed for a parting session: its
    watcher is called only if it has not been called before. -/
theorem move_work {s : Session} {l l' : Line} {input : Option Session.Input}
    (attended : Attended s) (goes : move w s l = .go l' input) :
    ((Move.go l' input).session w.service.shutdown s).stage.work l'.feed < s.stage.work l.feed := by
  unfold move at goes
  cases stage : s.stage with
  | apologising =>
    simp only [stage, Move.go.injEq] at goes
    obtain ⟨rfl, rfl⟩ := goes
    simp [Move.session, Session.step, stage, Session.Stage.work]
  | closing result? =>
    simp only [stage, Move.go.injEq] at goes
    obtain ⟨rfl, rfl⟩ := goes
    cases result? <;> simp [Move.session, Session.step, stage, Session.Stage.work]
  | parting result =>
    simp only [stage, Move.go.injEq] at goes
    obtain ⟨rfl, rfl⟩ := goes
    simp [Move.session, Session.step_called stage attended, Session.waited, Session.Stage.work]
  | relaying r source =>
    -- for the steps of the log that give the session nothing: a wait, and a cancel mark
    have less (f : Feed.Step) (feed : Feed) (reading : r.stage = .reading) :
        s.stage.work feed < s.stage.work (f :: feed) := by
      simp [stage, Session.Stage.work, reading]
    rw [← stage]
    simp only [stage] at goes
    cases at' : r.stage with
    | ended result => simp [at'] at goes
    | writing o =>
      simp only [at', Move.go.injEq] at goes
      obtain ⟨rfl, rfl⟩ := goes
      exact Session.work_written stage at' l.feed
    | resting =>
      simp only [at'] at goes
      split at goes
      next token =>
        obtain ⟨rfl, rfl⟩ := Move.go.inj goes
        refine Nat.lt_of_lt_of_le (Session.work_called stage (Or.inr at') token l.feed) ?_
        simp [stage, Session.Stage.work, at']
      next token =>
        rw [if_pos trivial] at goes
        obtain ⟨rfl, feed⟩ := go_of_pause goes
        rw [feed]
        exact Session.work_rested stage at' (by simpa using token) l.feed
    | reading =>
      simp only [at'] at goes
      split at goes
      next token =>
        obtain ⟨rfl, rfl⟩ := Move.go.inj goes
        refine Nat.lt_of_lt_of_le (Session.work_called stage (Or.inl at') token l.feed) ?_
        simp [stage, Session.Stage.work, at']
      next token =>
        have token : (s.cancelled || w.service.shutdown) = false := by simpa using token
        rw [if_neg (by simp)] at goes
        split at goes
        next feed =>
          obtain ⟨rfl, rfl⟩ := Move.go.inj goes
          refine Nat.lt_of_lt_of_le (Session.work_finished stage at' token l.feed) ?_
          simp [stage, Session.Stage.work, at']
        next text feed eq =>
          obtain ⟨rfl, rfl⟩ := Move.go.inj goes
          rw [eq]
          exact Session.work_read stage at' token (.line text) (.line text) feed
        next reason feed eq =>
          obtain ⟨rfl, rfl⟩ := Move.go.inj goes
          rw [eq]
          exact Session.work_read stage at' token (.failure reason) (.failure reason) feed
        next ms feed eq =>
          obtain ⟨rfl, same⟩ := go_of_pause goes
          rw [same, eq]
          exact less _ feed at'
        next => cases goes
        next feed eq =>
          obtain ⟨rfl, rfl⟩ := Move.go.inj goes
          rw [eq]
          exact less _ feed at'
  | _ => simp [stage] at goes

/-! ## Lines that wait

Since a world changes while a line waits, "waits" has to be a property that survives these changes.
What `move` reads of the world is the clock, the shutdown token and the settings, so it is stated
for any two worlds that agree on the last two. -/

/-- The two worlds agree on what all sessions share: the shutdown token and the settings. -/
structure Common (w w' : World Memory) : Prop where
  shutdown : w'.service.shutdown = w.service.shutdown
  settings : w'.service.settings = w.service.settings

/-- The three kinds of move: a line goes on, it waits whatever the time is, or it makes a `pause`.
    In the last two cases the same holds in every world with the same `Common`, for every line with
    the same feed. -/
theorem move_cases (w : World Memory) (s : Session) (l : Line) :
    (∃ l' input, move w s l = .go l' input) ∨
      (∀ w' l', Common w w' → l'.feed = l.feed → move w' s l' = .wait l') ∨
      ∃ ms input, ∀ w' l', Common w w' → l'.feed = l.feed → ∃ after,
        move w' s l' = pause w'.now ms l' after input := by
  -- what decides is where the relay is, then the token, then the log
  unfold move
  cases s.stage with
  | apologising | closing | parting => exact Or.inl ⟨_, _, rfl⟩
  | relaying r source =>
    obtain ⟨at', forwarded⟩ := r
    cases at' with
    | writing => exact Or.inl ⟨_, _, rfl⟩
    | ended => exact Or.inr (Or.inl fun _ _ _ _ => rfl)
    | resting =>
      cases token : s.cancelled || w.service.shutdown with
      | true => exact Or.inl ⟨_, _, rfl⟩
      | false =>
        refine Or.inr (Or.inr ⟨w.service.settings.throttleMs, some (.relay .rested), ?_⟩)
        intro w' l' common same
        exact ⟨l', by simp [common.shutdown, common.settings, token]⟩
    | reading =>
      cases token : s.cancelled || w.service.shutdown with
      | true => exact Or.inl ⟨_, _, rfl⟩
      | false =>
        cases l.feed with
        | nil => exact Or.inl ⟨_, _, rfl⟩
        | cons f feed =>
          cases f with
          | line | failure | cancel => exact Or.inl ⟨_, _, rfl⟩
          | silence =>
            refine Or.inr (Or.inl ?_)
            intro w' l' common same
            simp [common.shutdown, token, same]
          | wait ms =>
            refine Or.inr (Or.inr ⟨ms, none, ?_⟩)
            intro w' l' common same
            exact ⟨{ l' with feed }, by simp [common.shutdown, token, same]⟩
  | _ => exact Or.inr (Or.inl fun _ _ _ _ => rfl)

theorem wait_of_pause {now ms : Nat} {l l' after : Line} {input : Option Session.Input}
    (waits : pause now ms l after input = .wait l') :
    l'.feed = l.feed ∧ ∃ t, l'.wakes = some t ∧ now < t := by
  unfold pause at waits
  split at waits
  · split at waits
    · cases waits
    next some =>
      cases waits
      exact ⟨rfl, _, rfl, Nat.lt_add_of_pos_right (Nat.pos_of_ne_zero some)⟩
  next t wakes =>
    split at waits
    · cases waits
    next later =>
      cases waits
      exact ⟨rfl, t, wakes, Nat.lt_of_not_le later⟩

theorem pause_until {now ms t : Nat} {l after : Line} {input : Option Session.Input}
    (wakes : l.wakes = some t) (later : now < t) : pause now ms l after input = .wait l := by
  rw [pause, wakes]
  exact if_neg (Nat.not_le_of_lt later)

/-- A line that waits goes on waiting until it wakes. Its inbox, name and unread signals may change.
    -/
theorem move_wait {s : Session} {l l' l'' : Line} (waits : move w s l = .wait l')
    (common : Common w w') (feed : l''.feed = l'.feed) (wakes : l''.wakes = l'.wakes)
    (early : ∀ t, l'.wakes = some t → w.now < t → w'.now < t) : move w' s l'' = .wait l'' := by
  rcases move_cases w s l with ⟨l₁, input, goes⟩ | still | ⟨ms, input, pauses⟩
  · rw [goes] at waits
    cases waits
  · have same : l' = l := Move.wait.inj (waits.symm.trans (still w l ⟨rfl, rfl⟩ rfl))
    exact still w' l'' common (feed.trans (congrArg Line.feed same))
  · obtain ⟨after, eq⟩ := pauses w l ⟨rfl, rfl⟩ rfl
    obtain ⟨same, t, woken, later⟩ := wait_of_pause (eq.symm.trans waits)
    obtain ⟨after', eq'⟩ := pauses w' l'' common (feed.trans same)
    rw [eq']
    exact pause_until (wakes.trans woken) (early t woken later)

/-! ## One line among others

`World.onLine` and `World.act` find a line by its session's number, `settleLine` by its place.
`Seated` says that these are the same, and is kept by everything a world does (`Seated.kept`). -/

/-- Line `k` is the line of session `k`, and there is one for each. -/
def Seated (w : World Memory) : Prop :=
  w.lines.map (·.session) = List.range w.service.sessions.length

theorem Seated.own (seated : w.Seated) {k : Nat} {l : Line} (here : w.lines[k]? = some l) :
    l.session = k := by
  have same := congrArg (·[k]?) seated
  simp only [List.getElem?_map, here, Option.map_some] at same
  obtain ⟨_, eq⟩ := List.getElem?_eq_some_iff.mp same.symm
  rw [← eq, List.getElem_range]

theorem Seated.same {w' : World Memory} (seated : w.Seated)
    (lines : w'.lines.map (·.session) = w.lines.map (·.session))
    (sessions : w'.service.sessions.length = w.service.sessions.length) : w'.Seated := by
  unfold Seated
  rw [lines, sessions]
  exact seated

theorem Seated.onLine (seated : w.Seated) (i : Nat) {f : Line → Line}
    (keeps : ∀ l, (f l).session = l.session) : (w.onLine i f).Seated :=
  seated.same (map_onLine (·.session) w i keeps) rfl

/-- Acts of session `k` change no more of the lines than the inbox of its own. -/
theorem foldl_act_own (w : World Memory) (k : Nat) (acts : List Act) :
    let w' := (acts.map (k, ·)).foldl act w
    w'.now = w.now ∧ w'.service = w.service ∧
      ∃ ds, w'.lines = (w.onLine k fun l => { l with inbox := l.inbox ++ ds }).lines := by
  induction acts generalizing w with
  | nil => exact ⟨rfl, rfl, [], by simp [onLine]⟩
  | cons a acts ih =>
    obtain ⟨now, service, ds, lines⟩ := ih (w.act (k, a))
    have first : (w.act (k, a)).now = w.now ∧ (w.act (k, a)).service = w.service ∧
        ∃ ds, (w.act (k, a)).lines =
          (w.onLine k fun l => { l with inbox := l.inbox ++ ds }).lines := by
      cases a with
      | send frame => exact ⟨rfl, rfl, _, rfl⟩
      | close => exact ⟨rfl, rfl, _, rfl⟩
      | ask | opened | release | note => exact ⟨rfl, rfl, [], by simp [act, onLine]⟩
    obtain ⟨now', service', ds', lines'⟩ := first
    refine ⟨now.trans now', service.trans service', ds' ++ ds, ?_⟩
    refine lines.trans ?_
    simp only [onLine, lines', List.map_map]
    refine List.map_congr_left ?_
    intro l _
    by_cases own : l.session = k
    · simp [own]
    · simp [own]

/-- What an input to session `k` changes: session `k`, and the inbox of its line. -/
theorem give_session (w : World Memory) {k : Nat} {s : Session}
    (found : w.service.sessions[k]? = some s) (input : Session.Input) :
    let w' := w.give (.session k input)
    w'.now = w.now ∧
      w'.service = { w.service with
        sessions := w.service.sessions.set k (s.step w.service.shutdown input).1 } ∧
      ∃ ds, w'.lines = (w.onLine k fun l => { l with inbox := l.inbox ++ ds }).lines := by
  simp only [give, Service.step, found]
  exact foldl_act_own _ k _

theorem sessions_of_keys {lines lines' : List Line}
    (same : lines'.map Line.key = lines.map Line.key) :
    lines'.map (·.session) = lines.map (·.session) := by
  have sessions := congrArg (List.map Prod.fst) same
  rwa [List.map_map, List.map_map] at sessions

theorem Seated.give_session (seated : w.Seated) (k : Nat) (input : Session.Input) :
    (w.give (.session k input)).Seated := by
  have like := like_give w (.session k input)
  refine seated.same (sessions_of_keys like.lines) ?_
  rw [like.service]
  exact w.service.length_step (.session k input)

theorem Seated.resume (seated : w.Seated) (k : Nat) (input : Session.Input) :
    (World.resume k input id w).Seated := by
  unfold World.resume
  split
  · exact seated.onLine k fun _ => rfl
  · exact seated.give_session k input

/-- The two worlds differ at most in line `k` and session `k`, and in the events and the cluster. -/
structure Elsewhere (k : Nat) (w w' : World Memory) : Prop extends Common w w' where
  now : w'.now = w.now
  lines : ∀ j, j ≠ k → w'.lines[j]? = w.lines[j]?
  sessions : ∀ j, j ≠ k → w'.service.sessions[j]? = w.service.sessions[j]?

theorem Elsewhere.refl (k : Nat) (w : World Memory) : Elsewhere k w w :=
  ⟨⟨rfl, rfl⟩, rfl, fun _ _ => rfl, fun _ _ => rfl⟩

theorem Elsewhere.trans {k : Nat} {w'' : World Memory} (first : Elsewhere k w w')
    (second : Elsewhere k w' w'') : Elsewhere k w w'' where
  now := second.now.trans first.now
  shutdown := second.shutdown.trans first.shutdown
  settings := second.settings.trans first.settings
  lines j other := (second.lines j other).trans (first.lines j other)
  sessions j other := (second.sessions j other).trans (first.sessions j other)

theorem elsewhere_set (w : World Memory) (k : Nat) (l : Line) :
    Elsewhere k w { w with lines := w.lines.set k l } :=
  ⟨⟨rfl, rfl⟩, rfl, fun _ other => List.getElem?_set_ne (Ne.symm other), fun _ _ => rfl⟩

theorem elsewhere_give (seated : w.Seated) {k : Nat} {s : Session}
    (found : w.service.sessions[k]? = some s) (input : Session.Input) :
    Elsewhere k w (w.give (.session k input)) := by
  obtain ⟨now, service, ds, lines⟩ := World.give_session w found input
  refine ⟨⟨by rw [service], by rw [service]⟩, now, ?_, ?_⟩
  · -- the line that is found by the number `k` is line `k`, by `Seated`
    intro j other
    simp only [lines, onLine, List.getElem?_map]
    cases here : w.lines[j]? with
    | none => rfl
    | some l =>
      have own := seated.own here
      simp [own, other]
  · intro j other
    rw [service]
    exact List.getElem?_set_ne (Ne.symm other)

/-! ## Lines that have come to rest -/

/-- Line `k` waits, and is put back by `settleLine` as it is. -/
def Still (w : World Memory) (k : Nat) : Prop :=
  ∀ l s, w.lines[k]? = some l → w.service.sessions[k]? = some s → move w s l = .wait l

/-- The measure of line `k`, by the stage of its session and what is left of its log. -/
def work (w : World Memory) (k : Nat) : Nat :=
  match w.lines[k]?, w.service.sessions[k]? with
  | some l, some s => s.stage.work l.feed
  | _, _ => 0

theorem work_eq {k : Nat} {l : Line} {s : Session} (here : w.lines[k]? = some l)
    (found : w.service.sessions[k]? = some s) : w.work k = s.stage.work l.feed := by
  simp only [work, here, found]

theorem work_lt_patience (w : World Memory) (k : Nat) : w.work k < w.patience k := by
  unfold work patience
  split
  next l s here _ =>
    have := Session.work_le s.stage l.feed
    rw [here]
    simp only [Option.map_some, Option.getD_some]
    omega
  next => omega

theorem AsShared.attended (h : AsShared settings m w) {k : Nat} {s : Session}
    (found : w.service.sessions[k]? = some s) : Attended s := by
  obtain ⟨happenings, acts, run⟩ := h.run
  have sound := Shared.sound_run Memory.cluster settings m happenings
  rw [run] at sound
  exact sound.histories.attended found

theorem Still.elsewhere {k j : Nat} (still : Still w j) (other : j ≠ k) (same : Elsewhere k w w') :
    Still w' j := by
  intro l s here found
  rw [same.lines j other] at here
  rw [same.sessions j other] at found
  refine move_wait (still l s here found) same.toCommon rfl rfl ?_
  intro t _ later
  rwa [same.now]

theorem still_of_missing {k : Nat}
    (missing : w.lines[k]? = none ∨ w.service.sessions[k]? = none) : Still w k := by
  intro l s here found
  rcases missing with none | none
  · rw [none] at here
    cases here
  · rw [none] at found
    cases found

theorem Seated.set (seated : w.Seated) {k : Nat} {l l' : Line} (here : w.lines[k]? = some l)
    (same : l'.session = l.session) : Seated { w with lines := w.lines.set k l' } :=
  seated.same (map_set (·.session) here same) rfl

/-- A session begins: `World.request` has appended a line with its number before. -/
theorem Seated.accept (seated : w.Seated) {l : Line}
    (own : l.session = w.service.sessions.length) (t : Target) :
    (give { w with lines := w.lines ++ [l] } (.accept t)).Seated := by
  have like := like_give { w with lines := w.lines ++ [l] } (.accept t)
  have lines := sessions_of_keys like.lines
  unfold Seated at seated ⊢
  rw [lines, like.service, Service.length_step]
  simp [Service.Input.begun, seated, own, List.range_succ]

theorem Seated.stop (seated : w.Seated) : (w.give .shutdown).Seated :=
  seated.same rfl rfl

/-- `Seated` is kept while a world goes on. -/
theorem Seated.kept : Kept Seated where
  frame seated _ _ service _ lines := seated.same (sessions_of_keys lines) (by rw [service])
  give seated i input _ := seated.give_session i input
  list seated _ _ := seated
  get seated _ _ := seated
  log {w} seated i ns pod container tail _ _ :=
    Seated.resume (w := { w with state := (w.cluster.log w.state ns pod container tail).2 }) seated i _
  expect seated _ i _ _ _ := seated.onLine i fun _ => rfl
  reached {w} seated k l here _ input _ := by
    have framed : Seated { w with lines := w.lines.set k { l with wakes := none, expected := none } } :=
      seated.set here rfl
    exact framed.resume l.session input

/-- The step lemma of `settleLine`: a move of line `k` keeps the invariants, changes nothing
    elsewhere, and makes the measure of the line smaller. -/
theorem moved_on (h : AsShared settings m w) (seated : w.Seated) {k : Nat} {l l' : Line} {s : Session}
    {input : Option Session.Input} (here : w.lines[k]? = some l)
    (found : w.service.sessions[k]? = some s) (goes : move w s l = .go l' input) :
    AsShared settings m (w.moved k l' input) ∧ (w.moved k l' input).Seated ∧
      Elsewhere k w (w.moved k l' input) ∧ (w.moved k l' input).work k < w.work k := by
  have same : l'.session = l.session := session_go goes
  have own : l'.session = k := same.trans (seated.own here)
  have less := move_work (h.attended found) goes
  have shared := (AsShared.kept settings m).moved h here goes
  have seated' := Seated.kept.moved seated here goes
  -- without an input only the line is put back; with one, session `k` has taken a step besides
  have here' : (w.lines.set k l')[k]? = some l' :=
    List.getElem?_set_self (List.getElem?_eq_some_iff.mp here).1
  rw [work_eq here found]
  cases input with
  | none =>
    have left : World.work { w with lines := w.lines.set k l' } k = s.stage.work l'.feed :=
      work_eq here' found
    exact ⟨shared, seated', elsewhere_set w k l', left ▸ less⟩
  | some i =>
    rw [moved, own] at shared seated' ⊢
    refine ⟨shared, seated',
      (elsewhere_set w k l').trans (elsewhere_give (seated.set here same) found i), ?_⟩
    obtain ⟨-, service, ds, lines⟩ :=
      World.give_session { w with lines := w.lines.set k l' } found i
    have small := (List.getElem?_eq_some_iff.mp found).1
    have left : World.work (give { w with lines := w.lines.set k l' } (.session k i)) k =
        (s.step w.service.shutdown i).1.stage.work l'.feed := by
      unfold work
      rw [service, lines, List.getElem?_set_self small]
      simp only [onLine, List.getElem?_map, here']
      simp [own]
    exact left ▸ less

theorem settleLine_go (seated : w.Seated) {k : Nat} {l l' : Line} {s : Session}
    {input : Option Session.Input} (here : w.lines[k]? = some l)
    (found : w.service.sessions[k]? = some s) (goes : move w s l = .go l' input) (n : Nat) :
    settleLine (n + 1) k w = settleLine n k (w.moved k l' input) := by
  simp only [settleLine, here, seated.own here, found, goes]
  cases input <;> rfl

theorem settleLine_wait (seated : w.Seated) {k : Nat} {l l' : Line} {s : Session}
    (here : w.lines[k]? = some l) (found : w.service.sessions[k]? = some s)
    (waits : move w s l = .wait l') (n : Nat) :
    settleLine (n + 1) k w = { w with lines := w.lines.set k l' } := by
  simp only [settleLine, here, seated.own here, found, waits]

theorem settleLine_missing (seated : w.Seated) {k : Nat}
    (missing : w.lines[k]? = none ∨ w.service.sessions[k]? = none) (n : Nat) :
    settleLine n k w = w := by
  cases n with
  | zero => rfl
  | succ n =>
    unfold settleLine
    cases here : w.lines[k]? with
    | none => rfl
    | some l =>
      have found := missing.resolve_left (by simp [here])
      simp only [seated.own here, found]

/-- **A line comes to rest.** The induction is on the fuel `n`: each move takes one of it and at
    least one of the measure, so fuel beyond the measure is enough. Nothing changes elsewhere. -/
theorem settleLine_still (h : AsShared settings m w) (seated : w.Seated) (n k : Nat) :
    (settleLine n k w).Seated ∧ Elsewhere k w (settleLine n k w) ∧
      (w.work k < n → Still (settleLine n k w) k) := by
  induction n generalizing w with
  | zero => exact ⟨seated, .refl k w, fun enough => absurd enough (Nat.not_lt_zero _)⟩
  | succ n ih =>
    cases here : w.lines[k]? with
    | none =>
      rw [settleLine_missing seated (Or.inl here)]
      exact ⟨seated, .refl k w, fun _ => still_of_missing (Or.inl here)⟩
    | some l =>
      cases found : w.service.sessions[k]? with
      | none =>
        rw [settleLine_missing seated (Or.inr found)]
        exact ⟨seated, .refl k w, fun _ => still_of_missing (Or.inr found)⟩
      | some s =>
        cases moves : move w s l with
        | wait l' =>
          have same : l'.session = l.session := session_wait moves
          rw [settleLine_wait seated here found moves]
          refine ⟨seated.set here same, elsewhere_set w k l', ?_⟩
          intro _ l'' s' here' found'
          have small := (List.getElem?_eq_some_iff.mp here).1
          simp only [List.getElem?_set_self small, Option.some.injEq] at here'
          subst here'
          obtain rfl : s = s' := Option.some.inj (found.symm.trans found')
          exact move_wait moves ⟨rfl, rfl⟩ rfl rfl fun _ _ later => later
        | go l' input =>
          -- the measure has shrunk with the fuel, so the hypothesis of the induction applies
          obtain ⟨shared, seated', elsewhere, less⟩ := moved_on h seated here found moves
          obtain ⟨seated'', elsewhere', still⟩ := ih shared seated'
          rw [settleLine_go seated here found moves]
          refine ⟨seated'', elsewhere.trans elsewhere', ?_⟩
          intro enough
          exact still (Nat.lt_of_lt_of_le less (Nat.le_of_lt_succ enough))

end World

end PodTail
