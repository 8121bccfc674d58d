import PodTail.Proofs.Service.Shutdown

/-!
# Each session as if it were alone

`each_as_if_alone`: the sessions of a service do not disturb each other. What they share is the
shutdown token, which no step of a session cancels, and the cluster.

The comparison is with a service that has one session only. `Service.alone i n inputs` keeps of
`inputs` what goes to the session `i` and the shutdown, renumbered to 0; `n` counts the sessions
begun so far, since a session gets its number from them. `Service.Solo i s s'` says that `s'` is `s`
with all sessions but `i` left out. `Solo.step` shows that one input to `s` and what `alone` makes
of it for `s'` keep this and do the same acts, in two cases: an input that is not for `i` leaves it
as it is (`step_elsewhere`), and one that is for `i` is taken by the same session on both sides.
`Solo.run` is the induction over the inputs.

For sessions that share a cluster the states of the two clusters differ, as the one has been asked
more often. `Steady c view` is the condition under which this cannot be seen: the answers depend on
`view` of the state, which neither opening nor releasing a log changes. A cluster in memory is
steady for its pods and records (`steady_memory`), its counters being outside of the view.

The last part is about the shutdown, which does reach every session. `Session.Change.quiet` says
that under the cancelled token no write of a relay begins, `Service.quiet_step` says so of all
sessions of a service, and `called_step` that a relay which is told of the shutdown ends and has its
log released.
-/

set_option autoImplicit false

namespace PodTail

open Session (Act deeds)

namespace Session

variable {s s' : Session} {i : Input} {acts : List Act}

/-! ## One session after the shutdown

`writing?` is the write that the relay of a session is in. After the shutdown it may be there still,
from before, but no new one appears; the frames that are sent are those of `apology`. -/

/-- The write that is under way in the relay of a session. -/
def writing? (s : Session) : Option Relay.Outgoing :=
  match s.stage with
  | .relaying ⟨.writing o, _⟩ _ => some o
  | _ => none

/-- The frame is the apology that a session has just begun to send. -/
def Apologises (s : Session) (frame : String) : Prop :=
  s.stage = .apologising ∧ ∃ why, frame = apology s.target why

/-- With the shutdown token cancelled, a write that is under way after a change was under way before
    it, and a frame that is sent is an apology. -/
theorem Change.quiet (change : Change true s i s' acts) :
    (∀ o, s'.writing? = some o → s.writing? = some o) ∧
      ∀ frame, .send frame ∈ acts → s'.Apologises frame := by
  have called : (s.cancelled || true) = true := Bool.or_true _
  cases change with
  | ignored => simp
  | watched => exact ⟨fun o under => under, by simp⟩
  | opens _ _ _ _ token | reads _ _ _ token | rests _ _ token | resumes _ _ token =>
    simp [called] at token
  | @refused _ _ _ _ _ why =>
    refine ⟨by simp [writing?], fun frame sent => ⟨rfl, why, ?_⟩⟩
    simpa using sent
  | ends =>
    unfold part
    split <;> simp [writing?]
  | asks | opensLate | tells | closesEmpty | closes | parts => simp [writing?]

/-- `Session.start` begins no write, and the only frame it may send is an apology. -/
theorem quiet_start (label : String) (tail : Option Int) (shutdown : Bool) (t : Target) :
    (Session.start label tail shutdown t).1.writing? = none ∧
      ∀ frame, .send frame ∈ (Session.start label tail shutdown t).2 →
        (Session.start label tail shutdown t).1.Apologises frame := by
  obtain ⟨events, quiet, ⟨why, eq⟩ | ⟨d, q, eq⟩⟩ := start_cases label tail shutdown t
  · simp only [eq]
    refine ⟨rfl, fun frame sent => ⟨rfl, why, ?_⟩⟩
    simpa using sent
  · simp [eq, writing?]

/-- A running relay that takes `Arm.cancelled` after the shutdown ends as cancelled, whatever it was
    waiting for, and its log is released. -/
theorem relay_called {r : Relay.State} {source : OpenLog} (stage : s.stage = .relaying r source)
    (running : r.result? = none) :
    let next := s.step true (.relay .cancelled)
    (next.1.stage = .parting .cancelled ∨ next.1.stage = .closing (some .cancelled)) ∧
      .release source ∈ next.2 := by
  have ended : s.step true (.relay .cancelled) =
      s.endRelay source [] [.relayFinished r.forwarded .cancelled] .cancelled := by
    obtain ⟨at', forwarded⟩ := r
    cases at' with
    | ended result => simp [Relay.State.result?] at running
    | reading | resting =>
      simp [step, stage, relayStep, Relay.State.next, Relay.State.enter, Relay.State.notes,
        Relay.State.closing, Relay.State.result?]
    | writing o =>
      cases o <;> simp [step, stage, relayStep, Relay.State.next, Relay.State.enter,
        Relay.State.notes, Relay.State.closing, Relay.State.result?]
  -- what is left is about `endRelay`, which parts from the watcher or waits for it
  intro next
  rw [show next = _ from ended]
  refine ⟨?_, by simp [endRelay]⟩
  simp only [endRelay, part]
  split
  · exact Or.inr rfl
  · exact Or.inl rfl

end Session

namespace Service

variable {s s' : Service} {acts : List (Nat × Act)} {i : Nat}

/-! ## After the shutdown -/

/-- `Session.Change.quiet` for all sessions of a service, by the cases of `Turn`: the session is not
    touched, begins with the step (`quiet_start`), or takes the input. -/
theorem quiet_step (histories : Histories s acts) (stopped : s.shutdown = true) (input : Input) :
    (∀ (i : Nat) (session' : Session), (s.step input).1.sessions[i]? = some session' →
        ∀ o, session'.writing? = some o →
          ∃ session, s.sessions[i]? = some session ∧ session.writing? = some o) ∧
      ∀ i frame, (i, .send frame) ∈ (s.step input).2 →
        ∃ session', (s.step input).1.sessions[i]? = some session' ∧ session'.Apologises frame := by
  constructor
  · intro i session' found o under
    have turn := turn found
    generalize actsOf i (s.step input).2 = done at turn
    cases turn with
    | idle same => exact ⟨session', same, under⟩
    | begins _ _ began =>
      rw [began, (Session.quiet_start ..).1] at under
      cases under
    | @takes before own here _ took =>
      have change := histories.change here own
      rw [← took, stopped] at change
      exact ⟨before, here, change.quiet.1 o under⟩
  · intro i frame sent
    have known := lt_of_mem_step sent
    have found := List.getElem?_eq_getElem known
    refine ⟨_, found, ?_⟩
    have turn := turn found
    rw [← mem_actsOf] at sent
    generalize actsOf i (s.step input).2 = done at turn sent
    cases turn with
    | idle => cases sent
    | begins _ _ began =>
      rw [began]
      exact (Session.quiet_start ..).2 frame sent
    | @takes before own here _ took =>
      have change := histories.change here own
      rw [← took, stopped] at change
      rw [stopped] at sent
      exact change.quiet.2 frame sent

/-- `Session.relay_called` for a session of a service. -/
theorem called_step (stopped : s.shutdown = true) {session : Session} {r : Relay.State}
    {source : OpenLog} (found : s.sessions[i]? = some session)
    (stage : session.stage = .relaying r source) (running : r.result? = none) :
    let next := s.step (.session i (.relay .cancelled))
    (∃ session', next.1.sessions[i]? = some session' ∧
      (session'.stage = .parting .cancelled ∨ session'.stage = .closing (some .cancelled))) ∧
      (i, .release source) ∈ next.2 := by
  have small : i < s.sessions.length := (List.getElem?_eq_some_iff.mp found).1
  obtain ⟨ended, released⟩ := Session.relay_called stage running
  simp only [step, found, stopped]
  exact ⟨⟨_, List.getElem?_set_self small, ended⟩, List.mem_map_of_mem released⟩

/-! ## One session alone -/

/-- What an input is for the session `i` alone, `n` sessions having begun so far. -/
def Input.alone (n i : Nat) : Input → List Input
  | .accept t => if n = i then [.accept t] else []
  | .session j own => if j = i then [.session 0 own] else []
  | .shutdown => [.shutdown]

/-- What of some inputs comes to the session `i`, or to all, `n` sessions having begun so far. -/
def alone (i : Nat) : Nat → List Input → List Input
  | _, [] => []
  | n, input :: rest => input.alone n i ++ alone i (input.begun n) rest

/-- An input that `alone` drops for the session `i` changes neither that session nor the shutdown
    token, and is no act of that session. -/
theorem step_elsewhere {input : Input} (elsewhere : input.alone s.sessions.length i = []) :
    (s.step input).1.shutdown = s.shutdown ∧ (s.step input).1.sessions[i]? = s.sessions[i]? ∧
      actsOf i (s.step input).2 = [] := by
  cases input with
  | shutdown => cases elsewhere
  | accept t =>
    have other : s.sessions.length ≠ i := by
      intro here
      simp [Input.alone, here] at elsewhere
    refine ⟨rfl, ?_, actsOf_other other _⟩
    simp only [step]
    rcases Nat.lt_or_gt_of_ne other with beyond | old
    · rw [List.getElem?_eq_none (Nat.le_of_lt beyond), List.getElem?_eq_none]
      simpa using Nat.succ_le_of_lt beyond
    · exact List.getElem?_append_left old
  | session j own =>
    have other : j ≠ i := by
      intro here
      simp [Input.alone, here] at elsewhere
    simp only [step]
    cases s.sessions[j]? with
    | none => exact ⟨rfl, rfl, rfl⟩
    | some before => exact ⟨rfl, List.getElem?_set_ne other, actsOf_other other _⟩

/-- The service `s'` is `s` without all sessions but `i`. -/
structure Solo (i : Nat) (s s' : Service) : Prop where
  settings : s'.settings = s.settings
  shutdown : s'.shutdown = s.shutdown
  sessions : s'.sessions = s.sessions[i]?.toList

/-- **One step, with the others and alone.** The input to `s` and what `Input.alone` makes of it for
    `s'` keep `Solo`, and the acts alone are those of the session `i`, under the number 0. -/
theorem Solo.step (solo : Solo i s s') (input : Input) :
    Solo i (s.step input).1 (s'.run (input.alone s.sessions.length i)).1 ∧
      (s'.run (input.alone s.sessions.length i)).2 =
        (actsOf i (s.step input).2).map (0, ·) := by
  obtain ⟨settings, shutdown, sessions⟩ := solo
  have kept := (step_settings s input).symm
  by_cases elsewhere : input.alone s.sessions.length i = []
  -- the input is not for `i`: nothing is given to `s'`, and nothing changes for `i` in `s`
  · obtain ⟨token, same, silent⟩ := step_elsewhere elsewhere
    rw [elsewhere, silent]
    exact ⟨⟨settings.trans kept, shutdown.trans token.symm,
      sessions.trans (congrArg Option.toList same.symm)⟩, rfl⟩
  · cases input with
    | shutdown => exact ⟨⟨settings, rfl, sessions⟩, rfl⟩
    | accept t =>
      obtain rfl : s.sessions.length = i :=
        Decidable.of_not_not fun other => elsewhere (if_neg other)
      rw [List.getElem?_eq_none (Nat.le_refl _)] at sessions
      simp only [Input.alone, if_pos, run, Service.step, sessions, settings, shutdown, actsOf_own]
      exact ⟨⟨rfl, rfl, by simp⟩, by simp⟩
    | session j own =>
      obtain rfl : j = i := Decidable.of_not_not fun other => elsewhere (if_neg other)
      cases here : s.sessions[j]? with
      | none =>
        have nobody : s'.sessions[0]? = none := by simp [sessions, here]
        simp only [Input.alone, if_pos, run, Service.step, here, nobody]
        exact ⟨⟨settings, shutdown, sessions⟩, rfl⟩
      | some before =>
        have small : j < s.sessions.length := (List.getElem?_eq_some_iff.mp here).1
        rw [here] at sessions
        have first : s'.sessions[0]? = some before := by simp [sessions]
        simp only [Input.alone, if_pos, run, Service.step, here, first, shutdown, actsOf_own]
        refine ⟨⟨settings, rfl, ?_⟩, by simp⟩
        simp [sessions, List.getElem?_set_self small]

theorem Solo.run (solo : Solo i s s') (inputs : List Input) :
    Solo i (s.run inputs).1 (s'.run (alone i s.sessions.length inputs)).1 ∧
      (s'.run (alone i s.sessions.length inputs)).2 =
        (actsOf i (s.run inputs).2).map (0, ·) := by
  induction inputs generalizing s s' with
  | nil => exact ⟨solo, rfl⟩
  | cons input inputs ih =>
    obtain ⟨next, did⟩ := solo.step input
    obtain ⟨last, done⟩ := ih next
    rw [length_step] at last done
    simp only [alone, run_append, Service.run]
    refine ⟨last, ?_⟩
    rw [did, done, actsOf_append, List.map_append]

theorem Solo.start (settings : Settings) (i : Nat) :
    Solo i (Service.start settings) (Service.start settings) :=
  ⟨rfl, rfl, by simp [Service.start]⟩

end Service

namespace Shared

open Service (actsOf)

variable {σ κ : Type} {c : Cluster σ} {view : σ → κ} {w w' : Shared σ} {i : Nat}

/-! ## A cluster that others ask too -/

/-- The answers of a cluster to questions for logs depend on a `view` of its state only, and neither
    opening a log nor releasing one changes the view. -/
structure Steady (c : Cluster σ) (view : σ → κ) : Prop where
  answers : ∀ s s', view s = view s' → ∀ ns pod container tail,
    (c.log s ns pod container tail).1 = (c.log s' ns pod container tail).1
  log : ∀ s ns pod container tail, view (c.log s ns pod container tail).2 = view s
  release : ∀ s source, view (c.release s source) = view s

/-- A cluster in memory answers from its pods, its records and their ending, and keeps all three. -/
theorem steady_memory : Steady Memory.cluster fun m => (m.pods, m.records, m.ending) where
  answers m m' same ns pod container tail := by
    obtain ⟨pods, records, ending⟩ : m.pods = m'.pods ∧ m.records = m'.records ∧
        m.ending = m'.ending := by
      simpa using same
    have get : m.get ns pod = m'.get ns pod := by
      simp only [Memory.get, Memory.find?, pods]
    have lines : m.lines pod container = m'.lines pod container := by
      simp only [Memory.lines, records]
    simp only [Memory.cluster, Memory.log, get, lines, ending]
    split <;> rfl
  log m ns pod container tail := by
    simp only [Memory.cluster, Memory.log]
    split <;> rfl
  release m source := rfl

theorem Steady.perform (steady : Steady c view) (acts : List (Nat × Act)) (s : σ) :
    view (perform c s acts) = view s := by
  induction acts generalizing s with
  | nil => rfl
  | cons a acts ih =>
    obtain ⟨j, act⟩ := a
    cases act with
    | release source => exact (ih _).trans (steady.release s source)
    | ask | opened | send | close | note => exact ih s

/-- Giving several inputs one by one is one run of the service, with the view as it was. -/
theorem Steady.given (steady : Steady c view) (inputs : List Service.Input) (w : Shared σ) :
    (inputs.foldl (give c) w).service = (w.service.run inputs).1 ∧
      (inputs.foldl (give c) w).acts = w.acts ++ (w.service.run inputs).2 ∧
      view (inputs.foldl (give c) w).state = view w.state := by
  induction inputs generalizing w with
  | nil => exact ⟨rfl, (List.append_nil _).symm, rfl⟩
  | cons input inputs ih =>
    obtain ⟨service, acts, state⟩ := ih (w.give c input)
    refine ⟨service, acts.trans ?_, state.trans (steady.perform _ _)⟩
    exact List.append_assoc ..

/-- What may happen, as it happens to the session `i` alone, `n` sessions having begun so far. -/
def Happening.alone (n i : Nat) : Happening → List Happening
  | .accepted t => if n = i then [.accepted t] else []
  | .asked j => if j = i then [.asked 0] else []
  | .comes j own other => if j = i then [.comes 0 own other] else []
  | .stopped => [.stopped]

/-- How many sessions have begun behind what happens. -/
def Happening.begun (n : Nat) : Happening → Nat
  | .accepted _ => n + 1
  | _ => n

/-- What of all that happens comes to the session `i`, or to all, `n` sessions having begun so far.
    -/
def alone (i : Nat) : Nat → List Happening → List Happening
  | _, [] => []
  | n, h :: rest => h.alone n i ++ alone i (h.begun n) rest

theorem length_step (c : Cluster σ) (w : Shared σ) (h : Happening) :
    (w.step c h).service.sessions.length = h.begun w.service.sessions.length := by
  cases h with
  | accepted t => exact Service.length_step w.service (.accept t)
  | comes j own other => exact Service.length_step w.service (.session j own)
  | stopped => rfl
  | asked j =>
    simp only [step]
    split
    · exact Service.length_step w.service (.session j _)
    · rfl

/-- The service `w'` is `w` without all sessions but `i`, and its cluster is seen to be the same. -/
structure Solo (view : σ → κ) (i : Nat) (w w' : Shared σ) : Prop where
  service : Service.Solo i w.service w'.service
  acts : w'.acts = (actsOf i w.acts).map (0, ·)
  state : view w'.state = view w.state

theorem Solo.give (solo : Solo view i w w') (steady : Steady c view) (input : Service.Input) :
    Solo view i (w.give c input)
      ((input.alone w.service.sessions.length i).foldl (Shared.give c) w') := by
  obtain ⟨service, acts, state⟩ := steady.given (input.alone w.service.sessions.length i) w'
  obtain ⟨next, did⟩ := solo.service.step input
  refine ⟨service ▸ next, ?_, ?_⟩
  · rw [acts, did, solo.acts, ← List.map_append, ← Service.actsOf_append]
    rfl
  · rw [state, solo.state]
    exact (steady.perform _ _).symm

/-- Both clusters have answered a question for a log, each in its own state: `Solo` holds of what
    they are then. -/
theorem Solo.answered (solo : Solo view i w w') (steady : Steady c view)
    (ns pod container : String) (tail : Option Int) :
    Solo view i { w with state := (c.log w.state ns pod container tail).2 }
      { w' with state := (c.log w'.state ns pod container tail).2 } where
  service := solo.service
  acts := solo.acts
  state := by rw [steady.log, steady.log, solo.state]

/-- The happening `asked j`. For `j = i` both sessions are at the same stage, so both are answered,
    and alike (`Steady.answers`). For another session the one cluster is asked and the other is not,
    which the view does not show. -/
theorem Solo.asked (solo : Solo view i w w') (steady : Steady c view) (j : Nat) :
    Solo view i (w.step c (.asked j)) (run c w' (if j = i then [.asked 0] else [])) := by
  by_cases here : j = i
  · subst here
    have same : w'.service.sessions[0]? = w.service.sessions[j]? := by
      rw [solo.service.sessions]
      cases w.service.sessions[j]? <;> rfl
    rw [if_pos rfl]
    show Solo view j (w.step c (.asked j)) (w'.step c (.asked 0))
    simp only [Shared.step, same]
    split
    next ns pod container tail _ _ =>
      have given := (solo.answered steady ns pod container tail).give steady
        (.session j (.opened (c.log w.state ns pod container tail).1))
      rw [Service.Input.alone, if_pos rfl] at given
      rw [steady.answers w'.state w.state solo.state]
      exact given
    next => exact solo
  · rw [if_neg here]
    simp only [Shared.step]
    split
    next ns pod container tail _ _ =>
      -- The cluster of all sessions has answered somebody else, the other one nobody.
      have asked : Solo view i { w with state := (c.log w.state ns pod container tail).2 } w' :=
        ⟨solo.service, solo.acts, by rw [steady.log, solo.state]⟩
      have given := asked.give steady (.session j (.opened (c.log w.state ns pod container tail).1))
      rw [Service.Input.alone, if_neg here] at given
      exact given
    next => exact solo

theorem Solo.step (solo : Solo view i w w') (steady : Steady c view) (h : Happening) :
    Solo view i (w.step c h) (run c w' (h.alone w.service.sessions.length i)) := by
  cases h with
  | stopped => exact solo.give steady .shutdown
  | asked j => exact solo.asked steady j
  | accepted t =>
    have given := solo.give steady (.accept t)
    simp only [Service.Input.alone, Happening.alone] at given ⊢
    by_cases here : w.service.sessions.length = i
    · rw [if_pos here] at given ⊢
      exact given
    · rw [if_neg here] at given ⊢
      exact given
  | comes j own other =>
    have given := solo.give steady (.session j own)
    simp only [Service.Input.alone, Happening.alone] at given ⊢
    by_cases here : j = i
    · rw [if_pos here] at given ⊢
      exact given
    · rw [if_neg here] at given ⊢
      exact given

theorem Solo.run (solo : Solo view i w w') (steady : Steady c view) (happenings : List Happening) :
    Solo view i (run c w happenings) (run c w' (alone i w.service.sessions.length happenings)) := by
  induction happenings generalizing w w' with
  | nil => exact solo
  | cons h happenings ih =>
    have last := ih (solo.step steady h)
    rw [length_step] at last
    rw [alone, Shared.run, Shared.run, List.foldl_append]
    exact last

/-! ## Isolation -/

/-- **Each session does what it would do alone, and none writes after the shutdown.**

    - A step of a session changes neither the shutdown token nor any other session.
    - After any inputs to a service, each session is in the state it would be in if only its own
      inputs and the shutdown had come, and it has done the same acts: questions, frames, log, close
      and notes.
    - The same holds for sessions that share a cluster in memory, after any happenings.
    - After the shutdown no session begins the write of a line or of a read error, whether it has
      begun or begins later; frames that are still sent are apologies for failed look-ups. A running
      relay that is told of the shutdown ends as cancelled, and its log is released. -/
theorem each_as_if_alone (settings : Settings) (m : Memory) :
    (∀ (s : Service) (i : Nat) (own : Session.Input),
        (s.step (.session i own)).1.shutdown = s.shutdown ∧
          ∀ j, j ≠ i → (s.step (.session i own)).1.sessions[j]? = s.sessions[j]?) ∧
      (∀ inputs i,
        let s := (Service.start settings).run inputs
        let s' := (Service.start settings).run (Service.alone i 0 inputs)
        s'.1.sessions = s.1.sessions[i]?.toList ∧ s'.2 = (actsOf i s.2).map (0, ·)) ∧
      (∀ happenings i,
        let w := run Memory.cluster (start settings m) happenings
        let w' := run Memory.cluster (start settings m) (alone i 0 happenings)
        w'.service.sessions = w.service.sessions[i]?.toList ∧
          w'.acts = (actsOf i w.acts).map (0, ·)) ∧
      ∀ before after,
        let s := ((Service.start settings).run (before ++ .shutdown :: after)).1
        s.shutdown = true ∧
          (∀ input,
            (∀ (i : Nat) (session' : Session), (s.step input).1.sessions[i]? = some session' →
                ∀ o, session'.writing? = some o →
                  ∃ session, s.sessions[i]? = some session ∧ session.writing? = some o) ∧
              ∀ i frame, (i, .send frame) ∈ (s.step input).2 → ∃ session',
                (s.step input).1.sessions[i]? = some session' ∧ session'.Apologises frame) ∧
          ∀ (i : Nat) (session : Session) (r : Relay.State) (source : OpenLog),
            s.sessions[i]? = some session → session.stage = .relaying r source →
              r.result? = none →
                let next := s.step (.session i (.relay .cancelled))
                (∃ session', next.1.sessions[i]? = some session' ∧
                  (session'.stage = .parting .cancelled ∨
                    session'.stage = .closing (some .cancelled))) ∧
                  (i, .release source) ∈ next.2 := by
  refine ⟨?_, ?_, ?_, ?_⟩
  · -- the input goes to `i`, so it is elsewhere for every other session
    intro s i own
    have elsewhere : ∀ j, j ≠ i →
        (Service.Input.session i own).alone s.sessions.length j = [] :=
      fun j other => if_neg (Ne.symm other)
    refine ⟨?_, fun j other => (Service.step_elsewhere (elsewhere j other)).2.1⟩
    exact (Service.step_elsewhere (elsewhere (i + 1) (Nat.succ_ne_self i))).1
  · intro inputs i
    obtain ⟨solo, did⟩ := (Service.Solo.start settings i).run inputs
    exact ⟨solo.sessions, did⟩
  · -- the view is what `steady_memory` names
    intro happenings i
    have begin : Solo (fun m => (m.pods, m.records, m.ending)) i (start settings m)
        (start settings m) := ⟨Service.Solo.start settings i, rfl, rfl⟩
    have solo := begin.run steady_memory happenings
    exact ⟨solo.service.sessions, solo.acts⟩
  · intro before after s
    have stopped : s.shutdown = true := Service.shutdown_run _ before after
    have histories := Service.histories_run settings (before ++ .shutdown :: after)
    exact ⟨stopped, Service.quiet_step histories stopped, fun i session r source =>
      Service.called_step stopped⟩

end Shared

end PodTail
