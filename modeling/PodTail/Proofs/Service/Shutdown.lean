import PodTail.Proofs.Service.Sharing

/-!
# What goes on after the shutdown

A cancelled shutdown token ends every relay, but not a look-up: `Session.follow` looks at the token
only when the log has been opened, in `Session.beginRelay`. So a session that is in `Stage.looking`
when the shutdown comes asks on, and may open its log after it; and so may a session that begins
later. `Shared.asks_after_shutdown` is a run in which that happens.

`Service.opened_to_let_go` is what holds of all runs. A session that asks for anything after the
shutdown was looking its target up at the shutdown, or has begun since. A log that is opened after
the shutdown is released in the same step, with nothing sent to the client, and the number of logs
held does not grow.

For one session the invariant is `Session.Dismissed`, the deeds since the shutdown by stage, under
changes with the shutdown token cancelled (`Dismissed.change`). `Session.Aftermath` adds the
sessions that had come further than the look-up, which ask for nothing and open nothing any more
(`Change.settled`). `Since` is both for all sessions of a service, and `Since.step` follows the
cases of `Turn`.
-/

set_option autoImplicit false

namespace PodTail

open Session (Act deeds)

namespace Session

variable {shutdown : Bool} {s s' : Session} {i : Input} {t : Target} {done acts : List Act}

/-! ## One session

With the shutdown token cancelled, the constructors `opens`, `reads`, `rests` and `resumes` of
`Session.Change` have a guard that cannot hold. -/

/-- Where a session is that was looking its target up when the shutdown came or has begun since, and
    the deeds it has done since. A log that was opened for it was let go at once. -/
inductive Dismissed (t : Target) : Stage → List Act → Prop where
  | looking (d : Lookup OpenLog) : Dismissed t (.looking d) []
  | apologising (why : StreamFailure) :
      Dismissed t .apologising [.note (.sessionFailed t why), .send (apology t why)]
  | excused {stage : Stage} (why : StreamFailure) (at' : stage = .closing none ∨ stage = .over) :
      Dismissed t stage [.note (.sessionFailed t why), .send (apology t why), .close]
  | parting (source : OpenLog) : Dismissed t (.parting .cancelled) [.opened, .release source]
  | closing (source : OpenLog) :
      Dismissed t (.closing (some .cancelled)) [.opened, .release source, .close]
  | finished (source : OpenLog) :
      Dismissed t .over [.opened, .release source, .close, .note (.sessionEnded t .cancelled)]

/-- A step after the shutdown keeps `Dismissed`. The one that opens a log is `Change.opensLate`,
    which releases it in the same step. -/
theorem Dismissed.change (dismissed : Dismissed t s.stage done) (target : s.target = t)
    (change : Change true s i s' acts) : Dismissed t s'.stage (done ++ deeds acts) := by
  have called : (s.cancelled || true) = true := Bool.or_true _
  cases change with
  | ignored => simpa using dismissed
  | @asks _ _ _ d' _ _ _ stage _ _ _ _ quiet =>
    rw [stage] at dismissed
    cases dismissed with
    | looking => simpa [deeds_notes quiet, Act.isDeed] using Dismissed.looking d'
    | excused why at' => simp at at'
  | @refused _ _ _ _ _ why stage _ _ _ quiet =>
    rw [stage] at dismissed
    cases dismissed with
    | looking =>
      simpa [deeds_notes quiet, Act.isDeed, Event.isOutcome, target] using Dismissed.apologising why
    | excused why at' => simp at at'
  | @opensLate _ _ _ _ source stage _ _ quiet =>
    rw [stage] at dismissed
    cases dismissed with
    | looking =>
      simpa [deeds_notes quiet, Act.isDeed, Event.isOutcome] using Dismissed.parting source
    | excused why at' => simp at at'
  | opens _ _ _ _ token | reads _ _ _ token | rests _ _ token | resumes _ _ token =>
    simp [called] at token
  | ends stage =>
    rw [stage] at dismissed
    cases dismissed with
    | excused why at' => simp at at'
  | tells stage =>
    rw [stage] at dismissed
    cases dismissed with
    | apologising why => simpa [Act.isDeed] using Dismissed.excused why (Or.inl rfl)
    | excused why at' => simp at at'
  | closesEmpty stage =>
    rw [stage] at dismissed
    cases dismissed with
    | excused why => simpa using Dismissed.excused why (Or.inr rfl)
  | closes stage =>
    rw [stage] at dismissed
    cases dismissed with
    | excused why at' => simp at at'
    | closing source =>
      simpa [Act.isDeed, Event.isOutcome, target] using Dismissed.finished source
  | watched watching why =>
    simpa [deeds_notes why.deaf.2.2] using dismissed
  | parts watching why stage =>
    rw [stage] at dismissed
    cases dismissed with
    | excused why at' => simp at at'
    | parting source =>
      simpa [deeds_notes why.deaf.2.2, Act.isDeed] using Dismissed.closing source

/-- A session that begins is looking its target up. -/
theorem dismissed_start (label : String) (tail : Option Int) (shutdown : Bool) (t : Target) :
    Dismissed t (Session.start label tail shutdown t).1.stage
      (deeds (Session.start label tail shutdown t).2) := by
  obtain ⟨events, quiet, ⟨why, eq⟩ | ⟨d, q, eq⟩⟩ := start_cases label tail shutdown t
  · simpa [eq, deeds_notes quiet, Act.isDeed, Event.isOutcome]
      using Dismissed.apologising why
  · simpa [eq, deeds_notes quiet, Act.isDeed, Event.isOutcome]
      using Dismissed.looking d

theorem Dismissed.holds {stage : Stage} (dismissed : Dismissed t stage done) :
    stage.holds = false := by
  cases dismissed with
  | excused why at' => rcases at' with rfl | rfl <;> rfl
  | looking | apologising | parting | closing | finished => rfl

/-- A session that is not looking its target up does not go back to it, asks for nothing and opens
    no log, whether the service is shut down or not. -/
theorem Change.settled (change : Change shutdown s i s' acts)
    (elsewhere : ∀ d, s.stage ≠ .looking d) :
    (∀ d, s'.stage ≠ .looking d) ∧ (∀ q, .ask q ∉ acts) ∧ .opened ∉ acts := by
  cases change with
  | asks stage | refused stage | opens stage | opensLate stage => exact absurd stage (elsewhere _)
  | ignored | watched => exact ⟨elsewhere, by simp, by simp⟩
  | reads | rests | resumes | tells | closesEmpty | closes | parts => simp
  | @ends r source arm result =>
    unfold part
    split <;> simp

/-- After the shutdown no session takes a log in its hands. -/
theorem Change.holds (change : Change true s i s' acts) (holds : s'.stage.holds = true) :
    s.stage.holds = true := by
  have called : (s.cancelled || true) = true := Bool.or_true _
  cases change with
  | ignored | watched => exact holds
  | opens _ _ _ _ token | reads _ _ _ token | rests _ _ token | resumes _ _ token =>
    simp [called] at token
  | ends stage => simp [stage, Stage.holds]
  | asks | refused | opensLate | tells | closesEmpty | closes | parts => simp [Stage.holds] at holds

/-- What has become since the shutdown of a session that then was `origin`, if it had begun. -/
inductive Aftermath (origin : Option Session) (s : Session) (acts : List Act) : Prop where
  /-- It had come further than looking its target up. -/
  | settled {before : Session} (was : origin = some before)
      (elsewhere : ∀ d, before.stage ≠ .looking d) (still : ∀ d, s.stage ≠ .looking d)
      (asks : ∀ q, .ask q ∉ acts) (opens : .opened ∉ acts)
  | dismissed (was : ∀ before, origin = some before → ∃ d, before.stage = .looking d)
      (now : Dismissed s.target s.stage (deeds acts))

end Session

namespace Service

variable {s s' : Service} {acts : List (Nat × Act)} {input : Input}

/-- Nothing takes the shutdown back. -/
theorem shutdown_step (stopped : s.shutdown = true) : (s.step input).1.shutdown = true := by
  cases input with
  | shutdown => rfl
  | accept t => exact stopped
  | session i own =>
    simp only [step]
    split <;> exact stopped

/-- A service that has been shut down stays so. -/
theorem shutdown_run (s : Service) (before after : List Input) :
    (s.run (before ++ .shutdown :: after)).1.shutdown = true := by
  have stopped : ((s.run before).1.step .shutdown).1.shutdown = true := rfl
  rw [run_append]
  exact run_keeps (P := fun s _ => s.shutdown = true)
    (fun _ _ _ stopped => shutdown_step stopped) after [] stopped

/-! ## Since the shutdown -/

/-- What has become of the service `s` since it was shut down: it is `s'` now, and `acts` have been
    done in between. -/
structure Since (s s' : Service) (acts : List (Nat × Act)) : Prop where
  shutdown : s'.shutdown = true
  grown : s.sessions.length ≤ s'.sessions.length
  known : ∀ a ∈ acts, a.1 < s'.sessions.length
  each : ∀ i session, s'.sessions[i]? = some session →
    Session.Aftermath s.sessions[i]? session (actsOf i acts)
  held : s'.held ≤ s.held

theorem Since.start (stopped : s.shutdown = true) : Since s s [] where
  shutdown := stopped
  grown := Nat.le_refl _
  known := by simp
  each i session found := by
    by_cases looking : ∃ d, session.stage = .looking d
    · refine .dismissed (fun before same => ?_) ?_
      · exact Option.some.inj (found.symm.trans same) ▸ looking
      · obtain ⟨d, stage⟩ := looking
        rw [stage]
        exact .looking d
    · exact .settled found (not_exists.mp looking) (not_exists.mp looking) (by simp [actsOf])
        (by simp [actsOf])
  held := Nat.le_refl _

/-- After the shutdown a step does not raise the number of logs held: a new session holds none, and
    a session that holds one after the step held one before (`Change.holds`). -/
theorem held_step (histories : Histories s acts) (stopped : s.shutdown = true) (input : Input) :
    (s.step input).1.held ≤ s.held := by
  cases input with
  | shutdown => exact Nat.le_refl _
  | accept t =>
    have new : (Session.start s.settings.cappLabel s.settings.tailLines s.shutdown
        t).1.stage.holds = false := (Session.dismissed_start ..).holds
    have counted := held_concat s.sessions
      (Session.start s.settings.cappLabel s.settings.tailLines s.shutdown t).1
    rw [new] at counted
    exact Nat.le_of_eq counted
  | session i own =>
    cases here : s.sessions[i]? with
    | none =>
      simp only [step, here]
      exact Nat.le_refl _
    | some before =>
      have change := histories.change here own
      have counted := held_set (before.step s.shutdown own).1 here
      rw [stopped] at change
      simp only [step, here, held, stopped] at counted ⊢
      -- By `Change.holds` the step can make a session stop holding a log, but not begin to.
      by_cases holds : (before.step true own).1.stage.holds = true
      · rw [if_pos holds, if_pos (change.holds holds)] at counted
        omega
      · rw [if_neg holds] at counted
        omega

/-- A step keeps `Since`, session by session as `Turn` says. -/
theorem Since.step (since : Since s s' acts) {all : List (Nat × Act)} (histories : Histories s' all)
    (input : Input) : Since s (s'.step input).1 (acts ++ (s'.step input).2) where
  shutdown := shutdown_step since.shutdown
  grown := Nat.le_trans since.grown (length_le_step s' input)
  known a mem := by
    rcases List.mem_append.mp mem with mem | mem
    · exact Nat.lt_of_lt_of_le (since.known a mem) (length_le_step s' input)
    · exact lt_of_mem_step mem
  each i session found := by
    rw [actsOf_append]
    have turn := turn found
    generalize actsOf i (s'.step input).2 = done at turn ⊢
    cases turn with
    | idle same =>
      rw [List.append_nil]
      exact since.each i session same
    | @begins t here eq began =>
      -- no act so far has its number, and at the shutdown there was no session with it
      have silent : actsOf i acts = [] :=
        actsOf_others fun a mem => Nat.ne_of_lt (here ▸ since.known a mem)
      have absent : s.sessions[i]? = none := List.getElem?_eq_none (here ▸ since.grown)
      refine .dismissed (by simp [absent]) ?_
      have target : session.target = t := began ▸ Session.History.start_target ..
      rw [silent, List.nil_append, target, began]
      exact Session.dismissed_start ..
    | @takes before own here eq took =>
      have change := histories.change here own
      rw [← took] at change
      cases since.each i before here with
      -- both kinds of sessions stay what they are
      | settled was elsewhere still asks opens =>
        obtain ⟨still', asks', opens'⟩ := change.settled still
        exact .settled was elsewhere still' (by simp [asks, asks']) (by simp [opens, opens'])
      | dismissed was now =>
        refine .dismissed was ?_
        rw [Session.deeds_append, change.target]
        rw [since.shutdown] at change ⊢
        exact now.change rfl change
  held := Nat.le_trans (held_step histories since.shutdown input) since.held

/-- `Since` for any inputs before the shutdown and any inputs behind it. -/
theorem since_shutdown (settings : Settings) (before after : List Input) :
    let s := ((start settings).run (before ++ [.shutdown])).1
    Since s (s.run after).1 (s.run after).2 := by
  intro s
  have stopped : s.shutdown = true := shutdown_run _ before []
  have histories : Histories s ((start settings).run (before ++ [.shutdown])).2 := histories_run ..
  have both := run_keeps (P := fun s' acts => (∃ all, Histories s' all) ∧ Since s s' acts)
    (fun s' acts input ⟨⟨all, histories⟩, since⟩ =>
      ⟨⟨_, histories.step input⟩, since.step histories input⟩) after [] ⟨⟨_, histories⟩, Since.start stopped⟩
  simpa using both.2

/-- **What is opened after the shutdown is released at once.** Take any inputs before the shutdown
    and any behind it.

    - A session that asks its cluster for anything after the shutdown was in `Stage.looking` then,
      or has begun since.
    - A session that opens a log after the shutdown releases it as its next deed. It sends nothing;
      what may follow is the close and the note that it ended as cancelled.
    - The number of logs held does not grow. -/
theorem opened_to_let_go (settings : Settings) (before after : List Input) :
    let s := ((start settings).run (before ++ [.shutdown])).1
    let s' := (s.run after).1
    let acts := (s.run after).2
    (∀ i q, (i, .ask q) ∈ acts → ∀ session, s.sessions[i]? = some session →
        ∃ d, session.stage = .looking d) ∧
      (∀ i, (i, .opened) ∈ acts → ∃ t source,
        [.opened, .release source] <+: deeds (actsOf i acts) ∧
          deeds (actsOf i acts) <+:
            [.opened, .release source, .close, .note (.sessionEnded t .cancelled)]) ∧
      s'.held ≤ s.held := by
  intro s s' acts
  have since : Since s s' acts := since_shutdown settings before after
  have each : ∀ i a, (i, a) ∈ acts → ∃ session, s'.sessions[i]? = some session ∧
      Session.Aftermath s.sessions[i]? session (actsOf i acts) := by
    intro i a mem
    have known := since.known (i, a) mem
    exact ⟨_, List.getElem?_eq_getElem known, since.each i _ (List.getElem?_eq_getElem known)⟩
  refine ⟨?_, ?_, since.held⟩
  · intro i q mem session found
    obtain ⟨_, _, aftermath⟩ := each i _ mem
    cases aftermath with
    | settled was elsewhere still asks opens => exact absurd (mem_actsOf.mpr mem) (asks q)
    | dismissed was => exact was session found
  · intro i mem
    obtain ⟨session, _, aftermath⟩ := each i _ mem
    cases aftermath with
    | settled was elsewhere still asks opens => exact absurd (mem_actsOf.mpr mem) opens
    | dismissed was now =>
      have done : .opened ∈ deeds (actsOf i acts) :=
        List.mem_filter.mpr ⟨mem_actsOf.mpr mem, rfl⟩
      generalize deeds (actsOf i acts) = deeds, session.stage = stage at now done ⊢
      refine ⟨session.target, ?_⟩
      cases now with
      | looking | apologising | excused => simp at done
      | parting source | closing source | finished source => exact ⟨source, by simp, by simp⟩

end Service

namespace Shared

/-- A pod that is asked for by name, with the container. -/
def wanted : Target := .ofPod "ns" "web" (some "c")

/-- A cluster with that pod. -/
def small : Memory where
  pods := [("ns", Memory.plainPod "web" Labels.empty ["c"])]
  records := []
  ending := .close
  opened := 0
  closed := 0
  tails := []

/-- The shutdown comes while session 0 waits for the answer to `get`. It asks for the log after that
    and is given it, and session 1, which begins later still, asks as well. -/
theorem asks_after_shutdown :
    let w := run Memory.cluster (start Settings.standard small) [.accepted wanted, .stopped]
    let w' := run Memory.cluster w
      [.comes 0 (.got (.ok (Memory.plainPod "web" Labels.empty ["c"]))) (by simp), .asked 0,
        .accepted wanted]
    w.service.shutdown = true ∧ w.state.opened = 0 ∧ w'.state.opened = 1 ∧
      (0, .ask (.log "ns" "web" "c" (some 10))) ∈ w'.acts.drop w.acts.length ∧
      (1, .ask (.get "ns" "web")) ∈ w'.acts.drop w.acts.length := by
  intro w w'
  refine ⟨rfl, rfl, rfl, ?_, ?_⟩
  · have asked : (w'.acts.drop w.acts.length)[0]? =
        some (0, .ask (.log "ns" "web" "c" (some 10))) := rfl
    exact List.mem_of_getElem? asked
  · have asked : (w'.acts.drop w.acts.length)[7]? = some (1, .ask (.get "ns" "web")) := rfl
    exact List.mem_of_getElem? asked

end Shared

end PodTail
