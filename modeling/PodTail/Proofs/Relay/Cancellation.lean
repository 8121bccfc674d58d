import PodTail.Proofs.Relay.Delivery
import PodTail.Proofs.Relay.Settling

/-!
# Cancelling stops the relay at once

`stops_at_once`: once the token of a relay is cancelled, it begins no write and does not wait, so it
ends at the time of the cancellation, whatever it was doing.

The statement has three parts with a proof each. `still_step` shows that neither `Run.now` nor
`Run.begun` changes any more, since every wait has length zero and `Change.begins` asks for a token
that is not cancelled. `ends_once_cancelled` shows that the relay ends; it is `settles` from
`PodTail.Proofs.Relay.Settling` with the cancelled token as the reason to be held. The third part,
about frames, is the delicate one.

A write may itself cancel the token, in its ready phase, and then go on to `Move.record` without
ever waiting. Nothing but a wait looks at the token in the course of a write, so this frame is taken
although the token is cancelled. `Hurrying` is the state of such a write and `Plan.Hasty` the
condition on its plan. `cancelling_step` shows that the step which cancels the token leads to
`Spent` or to `Hurrying`, `hurrying_step` that `Hurrying` ends with that one frame or with none, and
`frames_after_cancelling` that no other frame comes.
-/

set_option autoImplicit false

namespace PodTail

namespace Relay

variable {s : Setup} {r r' : Run} {o : Outgoing}

/-! ## A cancelled relay stands still

Under a cancelled token `Undisturbed s r ms` holds for `ms = 0` only
(`Undisturbed.zero_of_cancelled`), and a wait that is called off ends at `r.now`
(`CalledOff.now_of_cancelled`). -/

/-- A relay whose token is cancelled neither waits nor begins a write. -/
theorem still_step (c : Change s r r') (token : r.cancelled = true) :
    r'.now = r.now ∧ r'.begun = r.begun := by
  cases c with
  | called _ off => exact ⟨off.now_of_cancelled token, rfl⟩
  | waits _ _ quiet | lingers _ _ _ quiet | restedLast _ quiet =>
    have zero := quiet.zero_of_cancelled token
    exact ⟨congrArg (r.now + ·) zero, rfl⟩
  | begins _ _ _ token' | rested _ _ token' => simp [token'] at token
  | ended | stuck | readerCancels | finishes | drops | writerCancels | records | fails | written
  | writtenLast | told => exact ⟨rfl, rfl⟩

theorem still_after {n : Nat} (token : (Run.after s n).cancelled = true) (d : Nat) :
    (Run.after s (n + d)).now = (Run.after s n).now ∧
      (Run.after s (n + d)).begun = (Run.after s n).begun := by
  induction d with
  | zero => exact ⟨rfl, rfl⟩
  | succ d ih =>
    obtain ⟨now, begun⟩ := still_step (step_change s _) (cancelled_after token d)
    exact ⟨now.trans ih.1, begun.trans ih.2⟩

/-- No wait goes beyond the time `T` at which the token is cancelled from outside: it is over
    before, or it is called off at `T`. -/
theorem now_le_cancelAt_step {T : Nat} (outside : s.cancelAt = some T) (c : Change s r r')
    (h : r.now ≤ T) : r'.now ≤ T := by
  have within : ∀ {ms}, Undisturbed s r ms → r.now + ms ≤ T := by
    rintro ms (rfl | ⟨_, early⟩)
    · exact h
    · exact Nat.le_of_lt (early T outside)
  cases c with
  | called _ off =>
    obtain ⟨_, ⟨_, rfl⟩ | ⟨_, u, hu, rfl, _⟩⟩ := off
    · exact h
    · obtain rfl := Option.some.inj (outside.symm.trans hu)
      exact Nat.max_le.mpr ⟨h, Nat.le_refl _⟩
  | waits _ _ quiet | lingers _ _ _ quiet | rested _ quiet | restedLast _ quiet => exact within quiet
  | ended | stuck | readerCancels | finishes | begins | drops | writerCancels | records | fails
  | written | writtenLast | told => exact h

theorem now_le_cancelAt {T : Nat} (outside : s.cancelAt = some T) (n : Nat) :
    (Run.after s n).now ≤ T := by
  induction n with
  | zero => exact Nat.zero_le _
  | succ n ih => exact now_le_cancelAt_step outside (step_change s _) ih

/-! ## The frame that slips through

A plan cancels in one phase at most, and there first thing (`Plan.waiting_of_cancel`). So a write
that cancels in its ready phase has done nothing else yet, and which frame it may still give is
known from its plan alone. -/

/-- A phase of waiting begins with its cancellation, or has none. -/
theorem Plan.waiting_of_cancel {p : Plan} {phase : Phase} {ms : Nat} {left : List Move}
    (suffix : .cancel :: left <:+ p.waiting phase ms) :
    p.cancelIn = some phase ∧ p.waiting phase ms = .cancel :: left := by
  obtain ⟨rest, eq, none⟩ : ∃ rest, p.waiting phase ms =
      (if p.cancelIn = some phase then [.cancel] else []) ++ rest ∧ Move.cancel ∉ rest := by
    unfold waiting
    simp only [List.append_assoc]
    refine ⟨_, rfl, ?_⟩
    cases p.failIn with
    | none => simp
    | some f => by_cases h : f.1 = phase <;> simp [h]
  rw [eq] at suffix ⊢
  by_cases h : p.cancelIn = some phase
  · rw [if_pos h, List.singleton_append] at suffix ⊢
    rcases List.suffix_cons_iff.mp suffix with same | suffix
    · exact ⟨h, same.symm⟩
    · exact absurd (suffix.subset List.mem_cons_self) none
  · rw [if_neg h, List.nil_append] at suffix
    exact absurd (suffix.subset List.mem_cons_self) none

/-- A write that cancels the token in its ready phase and goes on without waiting. -/
structure Plan.Hasty (p : Plan) : Prop where
  cancelIn : p.cancelIn = some .ready
  readyWait : p.readyWait = 0
  hangIn : p.hangIn ≠ some .ready

/-- The write of `o` has cancelled the token in its ready phase, of which `ready` is left. What is
    gone of that phase did not take any time. -/
structure Hurrying (s : Setup) (r : Run) (o : Outgoing) (ready : List Move) : Prop where
  stage : r.relay.stage = .writing o
  token : r.cancelled = true
  cancelIn : (s.current r).cancelIn = some .ready
  moves : r.moves = ready ++ ((s.current r).sending ++
    (s.current r).waiting .flush (s.current r).flushWait)
  suffix : ready <:+ (s.current r).waiting .ready (s.current r).readyWait
  gone : ∀ m ∈ (s.current r).waiting .ready (s.current r).readyWait,
    m ∈ ready ∨ m = .cancel ∨ m = .wait 0

namespace Hurrying

variable {ready : List Move}

theorem course (h : Hurrying s r o ready) : (s.current r).Course false r.moves :=
  .before h.suffix h.moves

/-- The next move of such a write belongs to what is left of its ready phase, or opens
    `Plan.sending`. -/
theorem next {m : Move} {more : List Move} (h : Hurrying s r o ready) (moves : r.moves = m :: more) :
    (∃ ready', ready = m :: ready' ∧ more = ready' ++ ((s.current r).sending ++
        (s.current r).waiting .flush (s.current r).flushWait)) ∨
      ready = [] ∧ (m = .record ∨ ∃ reason, m = .fail reason) := by
  have eq := moves.symm.trans h.moves
  cases ready with
  | cons m' ready' =>
    rw [List.cons_append, List.cons.injEq] at eq
    exact Or.inl ⟨ready', by rw [eq.1], eq.2⟩
  | nil =>
    refine Or.inr ⟨rfl, ?_⟩
    rw [List.nil_append] at eq
    rcases (s.current r).sending_cases with ⟨reason, hs⟩ | hs
    · rw [hs, List.singleton_append, List.cons.injEq] at eq
      exact Or.inr ⟨reason, eq.1⟩
    · rw [hs, List.cons.injEq] at eq
      exact Or.inl eq.1

/-- A move that takes no time leaves the write hurrying. -/
theorem tail {m : Move} (h : Hurrying s r o ready) (moves : r.moves = m :: r'.moves)
    (short : m = .cancel ∨ m = .wait 0) (begun : r'.begun = r.begun)
    (relay : r'.relay = r.relay) (token : r'.cancelled = true) :
    ∃ ready', Hurrying s r' o ready' := by
  have same : s.current r' = s.current r := by rw [Setup.current, begun]
  rcases h.next moves with ⟨ready', rfl, more⟩ | ⟨_, rfl | ⟨reason, rfl⟩⟩
  · refine ⟨ready', relay ▸ h.stage, token, same ▸ h.cancelIn, same ▸ more, ?_, ?_⟩
    · rw [same]
      exact (List.suffix_cons m ready').trans h.suffix
    · rw [same]
      intro m' mem
      rcases h.gone m' mem with mem | gone
      · rcases List.mem_cons.mp mem with rfl | mem
        · exact Or.inr short
        · exact Or.inl mem
      · exact Or.inr gone
  · simp at short
  · simp at short

/-- If such a write comes to `Move.record`, its plan is hasty: the whole ready phase has gone by, so
    it held nothing but the cancellation and a wait of no length. -/
theorem hasty {more : List Move} (h : Hurrying s r o ready) (moves : r.moves = .record :: more) :
    (s.current r).Hasty := by
  have none : ready = [] := by
    rcases h.next moves with ⟨ready', rfl, _⟩ | ⟨none, _⟩
    · exact absurd (h.suffix.subset List.mem_cons_self) (Plan.record_notMem_waiting _ _ _)
    · exact none
  have gone : ∀ m ∈ (s.current r).waiting .ready (s.current r).readyWait,
      m = .cancel ∨ m = .wait 0 := by
    intro m mem
    simpa [none] using h.gone m mem
  refine ⟨h.cancelIn, ?_, fun hang => ?_⟩
  · simpa using gone (.wait (s.current r).readyWait) (by simp [Plan.waiting])
  · simpa using gone .hang (by simp [Plan.waiting, hang])

end Hurrying

/-- The last thing a cancelled relay gives its client: nothing more than `frames`, or one frame
    more, which a hasty write of `o` by the plan `p` got through at the time `now`. -/
def LastFrames (s : Setup) (p : Plan) (o : Outgoing) (now : Nat)
    (frames frames' : List (Nat × String)) : Prop :=
  frames' = frames ∨ p.Hasty ∧ frames' = frames ++ [(now, o.frame s.target)]

/-- A hurrying write goes on hurrying, or it is over and the client has got one more frame at most.
    -/
theorem hurrying_step {ready : List Move} (c : Change s r r') (h : Hurrying s r o ready) :
    (∃ ready', Hurrying s r' o ready') ∧ r'.frames = r.frames ∨
      Spent s r' ∧ LastFrames s (s.current r) o r.now r.frames r'.frames := by
  have token := h.token
  have at' := h.stage
  cases c with
  | waits stage | readerCancels stage | finishes stage | begins _ stage | drops _ stage
  | ended stage | rested stage | restedLast stage => simp [stage] at at'
  | stuck _ token' | written _ _ token' => simp [token'] at token
  | called | fails | writtenLast | told => exact Or.inr ⟨.of_ended rfl, Or.inl rfl⟩
  | writerCancels _ _ moves => exact Or.inl ⟨h.tail moves (Or.inl rfl) rfl rfl rfl, rfl⟩
  | lingers _ _ moves quiet =>
    -- The token is cancelled, so the wait that is over had no length.
    obtain rfl := quiet.zero_of_cancelled token
    exact Or.inl ⟨h.tail moves (Or.inr rfl) rfl rfl token, rfl⟩
  | records o' stage moves =>
    obtain rfl : o' = o := by simpa [stage] using at'
    have sent := (moves ▸ h.course).record.2
    exact Or.inr ⟨⟨Or.inl token, fun _ _ => sent⟩, Or.inr ⟨h.hasty moves, rfl⟩⟩

/-- The induction over the steps from a hurrying write on. Clock, plan and frames are those of the
    moment of the cancellation until the one frame comes, and after it `spent_step` takes over. -/
theorem hurrying_after {n : Nat} {ready : List Move} (h : Hurrying s (Run.after s n) o ready)
    (d : Nat) :
    (∃ ready', Hurrying s (Run.after s (n + d)) o ready') ∧
        (Run.after s (n + d)).frames = (Run.after s n).frames ∨
      Spent s (Run.after s (n + d)) ∧
        LastFrames s (s.current (Run.after s n)) o (Run.after s n).now (Run.after s n).frames
          (Run.after s (n + d)).frames := by
  induction d with
  | zero => exact Or.inl ⟨⟨ready, h⟩, rfl⟩
  | succ d ih =>
    have c : Change s (Run.after s (n + d)) (Run.after s (n + (d + 1))) := step_change s _
    rcases ih with ⟨⟨ready', hurrying⟩, frames⟩ | ⟨spent, last⟩
    · -- `still_after` takes clock and plan back to the moment of the cancellation.
      obtain ⟨now, begun⟩ := still_after h.token d
      have next := hurrying_step c hurrying
      rw [Setup.current, now, begun, frames] at next
      exact next
    · obtain ⟨spent', frames⟩ := spent_step c spent
      exact Or.inr ⟨spent', by rw [frames]; exact last⟩

/-- The step that cancels the token. It gives no frame itself, and what it leaves is `Spent`, or a
    write that has just begun and hurries on. -/
theorem cancelling_step (sound : Sound s r) (c : Change s r r') (before : r.cancelled = false)
    (token : r'.cancelled = true) :
    r'.frames = r.frames ∧ (Spent s r' ∨
      ∃ o ready, r.relay.stage = .writing o ∧ r.moves = (s.current r).moves ∧
        r'.now = r.now ∧ r'.begun = r.begun ∧ Hurrying s r' o ready) := by
  cases c with
  | called => exact ⟨rfl, Or.inl (.of_ended rfl)⟩
  | readerCancels stage => exact ⟨rfl, Or.inl ⟨Or.inl rfl, by simp [stage]⟩⟩
  | ended | stuck | waits | finishes | begins | drops | lingers | records | fails | written
  | writtenLast | told | rested | restedLast =>
    simp [Run.begin, Run.close, before] at token
  | @writerCancels o more stage moves =>
    refine ⟨rfl, ?_⟩
    obtain ⟨i, sent, at'⟩ := sound.within stage
    have course : (s.current r).Course sent (.cancel :: more) := moves ▸ at'.course
    cases course with
    | after suffix =>
      -- The frame is taken already, so the write has no other to give.
      refine Or.inl ⟨Or.inl rfl, fun _ _ => ?_⟩
      exact (Plan.Course.after suffix).tail (by simp) (by simp)
    | @before _ ready suffix eq =>
      cases ready with
      | nil =>
        rcases (s.current r).sending_cases with ⟨reason, hs⟩ | hs <;> rw [hs] at eq <;> simp at eq
      | cons m ready =>
        rw [List.cons_append, List.cons.injEq] at eq
        obtain ⟨rfl, rfl⟩ := eq
        -- A cancellation is the first thing in its phase, so the write has only just begun.
        obtain ⟨cancelIn, whole⟩ := Plan.waiting_of_cancel suffix
        refine Or.inr ⟨o, ready, stage, ?_, rfl, rfl, ⟨stage, rfl, cancelIn, rfl, ?_, ?_⟩⟩
        · rw [moves, Plan.moves, whole, List.append_assoc, List.cons_append]
        · exact (List.suffix_cons _ _).trans suffix
        · intro m mem
          change m ∈ (s.current r).waiting .ready _ at mem
          rw [whole] at mem
          rcases List.mem_cons.mp mem with rfl | mem
          · exact Or.inr (Or.inl rfl)
          · exact Or.inl mem

/-- If step `n` cancels the token, then from there on the client gets nothing, or one frame: that of
    a write which was about to begin its ready phase then and whose plan is hasty. -/
theorem frames_after_cancelling {n : Nat} (before : (Run.after s n).cancelled = false)
    (token : (Run.after s (n + 1)).cancelled = true) {m : Nat} (later : n < m) :
    (Run.after s m).frames = (Run.after s n).frames ∨
      ∃ o, (Run.after s n).relay.stage = .writing o ∧
        (Run.after s n).moves = (s.current (Run.after s n)).moves ∧
        (s.current (Run.after s n)).Hasty ∧
        (Run.after s m).frames =
          (Run.after s n).frames ++ [((Run.after s n).now, o.frame s.target)] := by
  obtain ⟨d, rfl⟩ := Nat.exists_eq_add_of_le later
  have c : Change s (Run.after s n) (Run.after s (n + 1)) := step_change s _
  obtain ⟨same, spent | ⟨o, ready, stage, moves, now, begun, hurrying⟩⟩ :=
    cancelling_step (sound s n) c before token
  · exact Or.inl ((spent_after spent d).2.trans same)
  · rcases hurrying_after hurrying d with ⟨_, frames⟩ | ⟨_, frames | ⟨hasty, frames⟩⟩
    · exact Or.inl (frames.trans same)
    · exact Or.inl (frames.trans same)
    · rw [Setup.current, begun] at hasty
      rw [now, same] at frames
      exact Or.inr ⟨o, stage, moves, hasty, frames⟩

theorem frames_of_cancelledBefore (h : s.cancelledBefore = true) (n : Nat) :
    (Run.after s n).frames = [] := by
  have ended : (Run.after s 0).result? = some .cancelled := by
    simp [Run.after, Run.start, State.start, State.enter, Run.result?, State.result?, h]
  have same := Run.after_of_ended ended n
  rw [Nat.zero_add] at same
  rw [same]
  rfl

/-! ## A cancelled relay ends -/

/-- A relay whose token is cancelled ends without the clock moving, if the log has some step ahead
    that is neither another cancellation nor a wait of no length. A log that goes on for ever with
    those two would keep the reader busy for ever. -/
theorem ends_once_cancelled {n i : Nat} (token : (Run.after s n).cancelled = true)
    (ahead : (Run.after s n).taken ≤ i) (cancel : s.source i ≠ some .cancel)
    (wait : s.source i ≠ some (.wait 0)) :
    ∃ m, n ≤ m ∧ (Run.after s m).result? ≠ none ∧ (Run.after s m).now = (Run.after s n).now := by
  have held : Held s i (Run.after s n) :=
    ⟨Or.inr (Or.inr (Or.inr ⟨token, cancel, wait⟩)), Or.inl ahead⟩
  obtain ⟨m, later, _, settled⟩ := settles held
  obtain ⟨d, rfl⟩ := Nat.exists_eq_add_of_le later
  have ended := settled.result_ne_none (Or.inl (cancelled_after token d))
  exact ⟨n + d, later, ended, (still_after token d).1⟩

/-- **Cancelling stops a relay at once**, whatever it is doing. From the moment the token is
    cancelled

    - no write begins;
    - the client gets nothing, except the frame of a write that cancelled the token itself at the
      beginning of its ready phase and went on to `Move.record` without waiting (`Plan.Hasty`);
    - the relay ends without the clock having moved.

    If the token is cancelled from outside at a time `T`, the relay ends, and at `T` at the latest.
    -/
theorem stops_at_once (s : Script) :
    let run := Run.after s.setup
    (∀ n m, n ≤ m → (run n).cancelled = true → (run m).begun = (run n).begun) ∧
      ((s.cancelledBefore = true → ∀ n, (run n).frames = []) ∧
        ∀ n m, n < m → (run n).cancelled = false → (run (n + 1)).cancelled = true →
          (run m).frames = (run n).frames ∨
            ∃ o, (run n).relay.stage = .writing o ∧
              (run n).moves = (s.setup.current (run n)).moves ∧
              (s.setup.current (run n)).Hasty ∧
              (run m).frames = (run n).frames ++ [((run n).now, o.frame s.target)]) ∧
      (∀ n, (run n).cancelled = true →
        ∃ m, n ≤ m ∧ (run m).result? ≠ none ∧ (run m).now = (run n).now) ∧
      ∀ T, s.cancelAt = some T → (∀ n, (run n).now ≤ T) ∧ ∃ n, (run n).result? ≠ none := by
  intro run
  refine ⟨?_, ⟨?_, ?_⟩, ?_, ?_⟩
  · intro n m later token
    obtain ⟨d, rfl⟩ := Nat.exists_eq_add_of_le later
    exact (still_after token d).2
  · exact fun before => frames_of_cancelledBefore (s := s.setup) before
  · intro n m later before token
    exact frames_after_cancelling before token later
  · intro n token
    -- Behind the steps of the script the log has ended, and no reader gets past that.
    have drained : s.setup.source (max (run n).taken s.source.size) = none :=
      Array.getElem?_eq_none (Nat.le_max_right ..)
    refine ends_once_cancelled token (Nat.le_max_left _ s.source.size) ?_ ?_ <;> simp [run, drained]
  · intro T outside
    refine ⟨now_le_cancelAt outside, s.bound, ?_⟩
    exact s.settled.result_ne_none (Or.inr (by simp [Script.setup, outside]))

/-- The first write cancels the token when it begins, and goes on without waiting. -/
def hasty : Script where
  target := .ofPod "ns" "p" none
  throttle := 3
  source := #[.line "a", .line "b", .silence]
  plans := #[⟨some .ready, 0, 4, none, none⟩]
  cancelledBefore := false
  cancelAt := none

/-- Its frame is taken after the token is cancelled, and that is all. -/
example : (Run.after hasty.setup 2).cancelled = true ∧ (Run.after hasty.setup 2).frames = [] ∧
    (Run.after hasty.setup 9).result? = some .cancelled ∧
    (Run.after hasty.setup 9).frames.length = 1 ∧ (Run.after hasty.setup 9).now = 0 := by
  decide

end Relay

end PodTail
