import PodTail.Proofs.Relay.Delivery
import PodTail.Proofs.Relay.Settling

/-!
# Undisturbed runs deliver everything

`completes_whatever_the_timing`: if the log ends or fails at some position, every write succeeds and
nobody cancels the token (`Unhindered`), then the relay ends, and the client has every line of the
log and an error frame if it failed (`Completed`). The waits of the log, the delays of the client
and the throttle are all free. They decide when a frame comes, but neither which frames come nor how
it ends, so two such relays over the same lines agree in all but their times.

The proof has two halves. `Unhindered.ends_some_time` is `settles` with the end of the log as the
position that holds the reader; a run that settled there without ending would be stuck in silence or
in a write that hangs, and `Unhindered.not_stuck` excludes both. `Unhindered.last` looks at the step
that ended the relay: seven constructors of `Change` end one, and only `finishes` and `told` are
left without a cancelled token and a failing write. What the client has then is `Sound` for the run
before that step.

`Setup.NobodyCancels` is the condition on the setup under which the token is never cancelled, so
that `Unhindered` can be shown for a given script.
-/

set_option autoImplicit false

namespace PodTail

namespace Relay

/-! ## How a log ends -/

/-- A log is closed by its server, or fails with a reason. -/
inductive Ending where
  | closed
  | failed (reason : String)
  deriving DecidableEq, Repr

namespace Ending

/-- What stands in the log behind its last line. -/
def step : Ending → Option Feed.Step
  | closed => none
  | failed reason => some (.failure reason)

/-- The end of a relay that has come to the end of its log. -/
def result : Ending → RelayEnd
  | closed => .exhausted
  | failed _ => .readError

/-- What the client is told of it. -/
def frames : Ending → List String
  | closed => []
  | failed reason => [errorFrame reason]

end Ending

/-- The log has its ending `e` at position `i`, and neither an ending nor silence before. -/
def Setup.EndsAt (s : Setup) (i : Nat) (e : Ending) : Prop :=
  s.OpenTo i ∧ s.source i = e.step

/-- A write by the plan succeeds, however long it takes: it neither hangs nor fails. -/
def Plan.Succeeds (p : Plan) : Prop :=
  Move.hang ∉ p.moves ∧ ∀ reason, Move.fail reason ∉ p.moves

/-- The log ends at position `i`, all writes go through, and nobody cancels the token. -/
structure Unhindered (s : Setup) (i : Nat) (e : Ending) : Prop where
  ends : s.EndsAt i e
  willing : ∀ k, (s.plan k).Succeeds
  uncancelled : ∀ n, (Run.after s n).cancelled = false

/-- The relay has ended as the log has, all lines before position `i` have reached the client, and
    they have all been counted. -/
structure Completed (s : Setup) (i : Nat) (e : Ending) (r : Run) : Prop where
  result : r.result? = some e.result
  texts : r.texts = s.lineFrames i ++ e.frames
  forwarded : r.relay.forwarded = (s.lines i).length
  endings : r.endings = [((s.lines i).length, e.result)]

variable {s : Setup} {r r' : Run} {i : Nat} {e : Ending}

/-! ## The relay ends -/

/-- A log that is open to `j` has not ended before `j`, so its one ending is behind. -/
theorem Setup.EndsAt.le {j : Nat} (h : s.EndsAt i e) (openTo : s.OpenTo j) : j ≤ i := by
  refine Nat.le_of_not_lt fun lt => ?_
  obtain ⟨none, _, failure⟩ := openTo i lt
  cases e with
  | closed => exact none h.2
  | failed reason => exact failure reason h.2

theorem Setup.EndsAt.unique {j : Nat} {e' : Ending} (h : s.EndsAt i e) (h' : s.EndsAt j e') :
    j = i :=
  Nat.le_antisymm (h.le h'.1) (h'.le h.1)

theorem Setup.EndsAt.not_silent (h : s.EndsAt i e) {j : Nat} (openTo : s.OpenTo j) :
    s.source j ≠ some .silence := by
  rcases Nat.lt_or_eq_of_le (h.le openTo) with lt | rfl
  · exact (h.1 j lt).2.1
  · rw [h.2]
    cases e <;> simp [Ending.step]

/-- An unhindered relay is in no wait without an end. The log has no silence before its ending, and
    `Course.mem_moves` would trace a `Move.hang` back to the plan of the write. -/
theorem Unhindered.not_stuck (h : Unhindered s i e) (sound : Sound s r) : ¬ Pause s r none := by
  intro pause
  cases pause with
  | silence stage next => exact h.ends.not_silent (sound.between stage).openTo next
  | hang stage moves =>
    obtain ⟨j, sent, at'⟩ := sound.within stage
    have mem : Move.hang ∈ r.moves := by simp [moves]
    exact (h.willing _).1 (at'.course.mem_moves mem (by simp))

/-- An unhindered relay ends: its reader is held where the log ends, so the run settles, and it does
    not settle in a wait. -/
theorem Unhindered.ends_some_time (h : Unhindered s i e) :
    ∃ n, (Run.after s n).result? ≠ none := by
  have held : Held s i (Run.after s 0) := by
    refine ⟨?_, Or.inl (Nat.zero_le _)⟩
    cases e with
    | closed => exact Or.inl h.ends.2
    | failed reason => exact Or.inr (Or.inr (Or.inl ⟨reason, h.ends.2⟩))
  obtain ⟨n, _, _, ⟨result, stage⟩ | ⟨pause, _⟩⟩ := settles held
  · exact ⟨n, by simp [Run.result?_eq_some.mpr stage]⟩
  · exact absurd pause (h.not_stuck (sound s n))

/-! ## What it ends with -/

/-- The step that ends an unhindered relay is `Change.finishes` or `Change.told`. With `Sound` for
    the run before it this gives the frames and the count. -/
theorem Unhindered.last (h : Unhindered s i e) (sound : Sound s r) (c : Change s r r')
    (running : r.result? = none) (ended : r'.result? ≠ none) (token : r'.cancelled = false) :
    r'.result? = some e.result ∧ r'.texts = s.lineFrames i ++ e.frames ∧
      r'.relay.forwarded = (s.lines i).length := by
  -- What is cancelled stays cancelled, so the token was not cancelled before the step either.
  have before : r.cancelled = false := by
    cases hc : r.cancelled with
    | false => rfl
    | true => simp [cancelled_step c hc] at token
  cases c with
  | ended | stuck => exact absurd running ended
  | called => simp [Run.close] at token
  | drops _ _ _ hc | writtenLast _ _ hc | restedLast _ _ hc => simp [before] at hc
  | waits stage | readerCancels stage | begins o stage | writerCancels o stage | lingers o stage
  | records o stage | written stage | rested stage =>
    simp [Run.result?, State.result?, Run.begin, stage] at ended
  | @fails o reason more stage moves =>
    obtain ⟨j, sent, at'⟩ := sound.within stage
    have mem : Move.fail reason ∈ r.moves := by simp [moves]
    exact absurd (at'.course.mem_moves mem (by simp)) ((h.willing _).2 reason)
  | finishes stage next =>
    -- The relay has found an end of the log, and there is only one.
    have at' := sound.between stage
    have here : s.EndsAt r.taken .closed := ⟨at'.openTo, next⟩
    obtain rfl := h.ends.unique here
    obtain rfl : e = .closed := by
      have step : e.step = none := h.ends.2.symm.trans next
      cases e <;> simp [Ending.step] at step ⊢
    exact ⟨rfl, at'.texts.trans (List.append_nil _).symm, at'.forwarded⟩
  | @told reason stage moves =>
    obtain ⟨j, sent, at'⟩ := sound.within stage
    obtain rfl := (moves ▸ at'.course).sent_of_nil
    have here : s.EndsAt j (.failed reason) := ⟨at'.openTo, at'.item⟩
    obtain rfl := h.ends.unique here
    obtain rfl : e = .failed reason := by
      have step : e.step = some (.failure reason) := h.ends.2.symm.trans at'.item
      cases e <;> simp [Ending.step] at step
      rw [step]
    exact ⟨rfl, at'.texts, at'.forwarded⟩

/-- An unhindered relay completes its log, and stays so, as a run that has ended is a fixed point.
    -/
theorem Unhindered.completes (h : Unhindered s i e) :
    ∃ N, ∀ n, N ≤ n → Completed s i e (Run.after s n) := by
  obtain ⟨N, ends⟩ := h.ends_some_time
  refine ⟨N, fun n hn => ?_⟩
  obtain ⟨result, ended⟩ := Option.ne_none_iff_exists'.mp ends
  obtain ⟨d, rfl⟩ := Nat.exists_eq_add_of_le hn
  rw [Run.after_of_ended ended d]
  rcases Run.last_step ended with start | ⟨m, _, running, same⟩
  -- A run is over at its start only if it is cancelled beforehand.
  · have token := h.uncancelled 0
    rw [start] at ended
    simp [Run.after, Run.start] at token
    simp [Run.start, State.start, State.enter, Run.result?, State.result?, token] at ended
  · have c : Change s (Run.after s m) (Run.after s N) := same ▸ step_change s _
    obtain ⟨hr, texts, forwarded⟩ := h.last (sound s m) c running ends (h.uncancelled N)
    have noted := noted s N
    rw [Run.Noted, hr, forwarded] at noted
    exact ⟨hr, texts, forwarded, noted⟩

/-! ## Where nobody cancels

`Unhindered.uncancelled` is about a run. `Setup.NobodyCancels` says the same of the four places of a
setup from which a token can be cancelled, and `NobodyCancels.uncancelled` is the induction from the
one to the other. -/

/-- Nothing in the setup cancels the token: it is not cancelled beforehand, nor from outside, nor by
    the reader, nor in the course of a write. -/
structure Setup.NobodyCancels (s : Setup) : Prop where
  before : s.cancelledBefore = false
  outside : s.cancelAt = none
  reader : ∀ j, s.source j ≠ some .cancel
  writer : ∀ k, (s.plan k).cancelIn = none

theorem Setup.NobodyCancels.step (h : s.NobodyCancels) (sound : Sound s r) (c : Change s r r')
    (token : r.cancelled = false) : r'.cancelled = false := by
  cases c with
  | called _ off =>
    obtain ⟨_, ⟨hc, _⟩ | ⟨_, u, hu, _⟩⟩ := off
    · simp [token] at hc
    · simp [h.outside] at hu
  | readerCancels _ next => exact absurd next (h.reader _)
  | writerCancels o stage moves =>
    obtain ⟨j, sent, at'⟩ := sound.within stage
    have mem : Move.cancel ∈ r.moves := by simp [moves]
    exact absurd (h.writer _) (at'.course.cancelIn_of_mem mem)
  | ended | stuck | waits | finishes | begins | drops | lingers | records | fails | written
  | writtenLast | told | rested | restedLast => exact token

theorem Setup.NobodyCancels.uncancelled (h : s.NobodyCancels) (n : Nat) :
    (Run.after s n).cancelled = false := by
  induction n with
  | zero => exact h.before
  | succ n ih => exact h.step (sound s n) (step_change s _) ih

namespace Script

variable (s : Script)

/-- What holds of the plans of a script and of the smooth plan holds of all its writes. -/
theorem forall_plan {P : Plan → Prop} (smooth : P .smooth) (plans : ∀ p ∈ s.plans, P p) (k : Nat) :
    P (s.setup.plan k) := by
  change P (s.plans[k]?.getD .smooth)
  cases h : s.plans[k]? with
  | none => exact smooth
  | some p => exact plans p (Array.mem_of_getElem? h)

theorem nobodyCancels (before : s.cancelledBefore = false) (outside : s.cancelAt = none)
    (reader : .cancel ∉ s.source) (writer : ∀ p ∈ s.plans, p.cancelIn = none) :
    s.setup.NobodyCancels where
  before := before
  outside := outside
  reader _ h := reader (Array.mem_of_getElem? h)
  writer := s.forall_plan (P := (·.cancelIn = none)) rfl writer

end Script

theorem Plan.smooth_succeeds : Plan.smooth.Succeeds := by
  simp [Succeeds, smooth, moves, waiting, sending]

/-! ## Whatever the timing -/

/-- **An unhindered relay delivers its whole log, whatever the timing.** It ends as the log does,
    and the client has the frames of all lines, with an error frame behind them if the log failed.

    The second half compares two such relays, for the same target and with the same lines and the
    same ending. They come to the same frames, end, count and notes, whatever the waits of the two
    logs, the delays of the two clients and the two throttles are. -/
theorem completes_whatever_the_timing (s : Setup) (i : Nat) (e : Ending) (h : Unhindered s i e) :
    (∃ N, ∀ n, N ≤ n → Completed s i e (Run.after s n)) ∧
      ∀ (s' : Setup) (i' : Nat), Unhindered s' i' e → s'.target = s.target →
        s'.lines i' = s.lines i →
        ∃ N, ∀ n n', N ≤ n → N ≤ n' →
          (Run.after s' n').texts = (Run.after s n).texts ∧
          (Run.after s' n').result? = (Run.after s n).result? ∧
          (Run.after s' n').relay.forwarded = (Run.after s n).relay.forwarded ∧
          (Run.after s' n').endings = (Run.after s n).endings := by
  refine ⟨h.completes, fun s' i' h' target lines => ?_⟩
  obtain ⟨N, all⟩ := h.completes
  obtain ⟨N', all'⟩ := h'.completes
  refine ⟨max N N', fun n n' hn hn' => ?_⟩
  have one := all n (Nat.le_trans (Nat.le_max_left ..) hn)
  have other := all' n' (Nat.le_trans (Nat.le_max_right ..) hn')
  refine ⟨?_, ?_, ?_, ?_⟩
  · rw [one.texts, other.texts, Setup.lineFrames, Setup.lineFrames, lines, target]
  · rw [one.result, other.result]
  · rw [one.forwarded, other.forwarded, lines]
  · rw [one.endings, other.endings, lines]

/-- Two lines and a read error, with waits between them, for a client that takes each frame slowly.
    -/
def leisurely : Script where
  target := .ofPod "ns" "p" none
  throttle := 3
  source := #[.line "a", .wait 5, .line "b", .failure "reset"]
  plans := #[⟨none, 2, 1, none, none⟩]
  cancelledBefore := false
  cancelAt := none

/-- The same lines and the same read error, all at once. -/
def prompt : Script where
  target := .ofPod "ns" "p" none
  throttle := 0
  source := #[.line "a", .line "b", .failure "reset"]
  plans := #[]
  cancelledBefore := false
  cancelAt := none

theorem leisurely_unhindered : Unhindered leisurely.setup 3 (.failed "reset") where
  ends := by
    refine ⟨fun j hj => ?_, rfl⟩
    obtain rfl | rfl | rfl : j = 0 ∨ j = 1 ∨ j = 2 := by omega
    all_goals simp [leisurely, Script.setup]
  willing := by
    apply leisurely.forall_plan Plan.smooth_succeeds
    simp [leisurely, Plan.Succeeds, Plan.moves, Plan.waiting, Plan.sending]
  uncancelled := by
    apply Setup.NobodyCancels.uncancelled
    exact leisurely.nobodyCancels rfl rfl (by simp [leisurely]) (by simp [leisurely])

theorem prompt_unhindered : Unhindered prompt.setup 2 (.failed "reset") where
  ends := by
    refine ⟨fun j hj => ?_, rfl⟩
    obtain rfl | rfl : j = 0 ∨ j = 1 := by omega
    all_goals simp [prompt, Script.setup]
  willing := by
    apply prompt.forall_plan Plan.smooth_succeeds
    simp [prompt]
  uncancelled := by
    apply Setup.NobodyCancels.uncancelled
    exact prompt.nobodyCancels rfl rfl (by simp [prompt]) (by simp [prompt])

/-- A slow run and a fast one over the same two lines and the same read error. -/
theorem leisurely_as_prompt :
    (∃ N, ∀ n, N ≤ n → Completed leisurely.setup 3 (.failed "reset") (Run.after leisurely.setup n)) ∧
      ∃ N, ∀ n n', N ≤ n → N ≤ n' →
        (Run.after prompt.setup n').texts = (Run.after leisurely.setup n).texts ∧
        (Run.after prompt.setup n').result? = (Run.after leisurely.setup n).result? ∧
        (Run.after prompt.setup n').relay.forwarded =
          (Run.after leisurely.setup n).relay.forwarded ∧
        (Run.after prompt.setup n').endings = (Run.after leisurely.setup n).endings := by
  have both := completes_whatever_the_timing leisurely.setup 3 (.failed "reset") leisurely_unhindered
  exact ⟨both.1, both.2 prompt.setup 2 prompt_unhindered rfl rfl⟩

end Relay

end PodTail
