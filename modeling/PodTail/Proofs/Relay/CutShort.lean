import PodTail.Proofs.Relay.Completion

/-!
# Cancelling only cuts a run short

`cancelling_cuts_short` compares a script with `Script.uncancelled`, the same script without
everything that cancels its token. The relay of the second does the same things at the same times
and goes on where the first is called off, so the frames of the first are a prefix of the frames of
the second, times included.

This is a simulation. `Run.bare s r` is the run `r` with its cancellations erased: the token is not
cancelled, the position counts only the steps of the log that stay (`Setup.kept`), and the
cancellations are filtered out of the moves. `bare_step` says what a step does to it, in three
cases: it ends the relay as cancelled, or it leaves the erased run as it is (a stuttering step,
which only cancels the token), or it is a step of the erased run in the setup without cancellations
(`Setup.Erased`). `cut_short` is the induction over the steps.

The token is not part of what is compared. A relay whose token is cancelled keeps in step with the
other until it looks at the token, and it may end for another reason before it does; then the two
runs end alike, which is the last part of the theorem.
-/

set_option autoImplicit false

namespace PodTail

namespace Relay

/-! ## Leaving out what cancels

Erasing the cancellations shifts the log: what stood at position `i` stands at `s.kept i`
afterwards. `Setup.Erased s s'` says how the two setups correspond, and the lemmas about
`Plan.uncancelled` that erasing commutes with each phase of a plan. -/

/-- The plan without its cancellation. -/
def Plan.uncancelled (p : Plan) : Plan :=
  { p with cancelIn := none }

namespace Setup

/-- How many of the first so many steps of the log do not cancel the token. -/
def kept (s : Setup) : Nat → Nat
  | 0 => 0
  | i + 1 => if s.source i = some .cancel then s.kept i else s.kept i + 1

/-- `s'` is `s` without all that cancels the token. What stands in the log behind such a step has
    moved up. -/
structure Erased (s s' : Setup) : Prop where
  target : s'.target = s.target
  throttle : s'.throttle = s.throttle
  source : ∀ i, s.source i ≠ some .cancel → s'.source (s.kept i) = s.source i
  plan : ∀ k, s'.plan k = (s.plan k).uncancelled
  nobody : s'.NobodyCancels

variable {s s' : Setup} {i : Nat}

theorem kept_cancel (h : s.source i = some .cancel) : s.kept (i + 1) = s.kept i :=
  if_pos h

theorem kept_other (h : s.source i ≠ some .cancel) : s.kept (i + 1) = s.kept i + 1 :=
  if_neg h

end Setup

/-- A run as it is without its cancellations. -/
def Run.bare (s : Setup) (r : Run) : Run :=
  { r with cancelled := false, taken := s.kept r.taken, moves := r.moves.filter (· ≠ .cancel) }

theorem Plan.waiting_uncancelled (p : Plan) (phase : Phase) (ms : Nat) :
    p.uncancelled.waiting phase ms = (p.waiting phase ms).filter (· ≠ .cancel) := by
  unfold waiting uncancelled
  by_cases cancel : p.cancelIn = some phase <;> by_cases hang : p.hangIn = some phase <;>
    cases p.failIn with
    | none => simp [cancel, hang]
    | some f => by_cases fail : f.1 = phase <;> simp [cancel, hang, fail]

theorem Plan.sending_uncancelled (p : Plan) :
    p.uncancelled.sending = p.sending.filter (· ≠ .cancel) := by
  unfold sending uncancelled
  by_cases cancel : p.cancelIn = some .send <;>
    match p.failIn with
    | none | some (.ready, _) | some (.send, _) | some (.flush, _) => simp [cancel]

theorem Plan.moves_uncancelled (p : Plan) :
    p.uncancelled.moves = p.moves.filter (· ≠ .cancel) := by
  simp only [moves, List.filter_append, waiting_uncancelled, sending_uncancelled]
  rfl

/-! ## The two runs in step

One case for each constructor of `Change`. `read` and `left` carry the guards over: a step of the
log and a move that are not cancellations are found again in the erased setup and the erased run. -/

variable {s s' : Setup} {r r' : Run}

/-- Without cancellations every wait is `Undisturbed`, so how a wait of the first run ended, if it
    was not called off, need not be asked. -/
theorem Setup.Erased.undisturbed (h : s.Erased s') (ms : Nat) : Undisturbed s' (r.bare s) ms :=
  Or.inr ⟨rfl, fun t outside => by simp [h.nobody.outside] at outside⟩

/-- **One step of the simulation.** The step ends the relay as cancelled and gives no frame, or it
    leaves the erased run as it is, or it is a step of the erased run. -/
theorem bare_step (h : s.Erased s') (c : Change s r r') :
    r'.result? = some .cancelled ∧ r'.frames = r.frames ∨
      r'.bare s = r.bare s ∨ Change s' (r.bare s) (r'.bare s) := by
  have read : ∀ {next}, s.source r.taken = some next → next ≠ .cancel →
      s'.source (r.bare s).taken = some next := by
    intro next at' other
    have kept : s.source r.taken ≠ some .cancel := by simpa [at'] using other
    exact (h.source _ kept).trans at'
  have left : ∀ {m more}, r.moves = m :: more → m ≠ .cancel →
      (r.bare s).moves = m :: more.filter (· ≠ .cancel) := by
    intro m more moves other
    simp [Run.bare, moves, other]
  cases c with
  | ended | stuck => exact Or.inr (Or.inl rfl)
  -- these four look at the token and end the relay
  | called | drops | writtenLast | restedLast => exact Or.inl ⟨rfl, rfl⟩
  -- these two only cancel it: the erased run stutters
  | readerCancels stage next =>
    refine Or.inr (Or.inl ?_)
    simp only [Run.bare, Setup.kept_cancel next]
  | writerCancels o stage moves =>
    refine Or.inr (Or.inl ?_)
    simp [Run.bare, moves]
  | @waits ms stage next quiet =>
    refine Or.inr (Or.inr ?_)
    have kept : s.kept (r.taken + 1) = s.kept r.taken + 1 := Setup.kept_other (by simp [next])
    have same : Run.bare s { r with now := r.now + ms, taken := r.taken + 1 } =
        { r.bare s with now := r.now + ms, taken := (r.bare s).taken + 1 } := by
      simp only [Run.bare, kept]
    exact same ▸ .waits stage (read next (by simp)) (h.undisturbed ms)
  | finishes stage next =>
    have next' : s'.source (r.bare s).taken = none := (h.source _ (by simp [next])).trans next
    exact Or.inr (Or.inr (.finishes (r := r.bare s) stage next'))
  | begins o stage next =>
    refine Or.inr (Or.inr ?_)
    have item : o.item ≠ .cancel := by cases o <;> simp [Outgoing.item]
    have kept : s.kept (r.taken + 1) = s.kept r.taken + 1 := Setup.kept_other (by simp [next, item])
    have moves : (s'.plan r.begun).moves = (s.plan r.begun).moves.filter (· ≠ .cancel) := by
      rw [h.plan, Plan.moves_uncancelled]
    have same : (r.begin s o).bare s = (r.bare s).begin s' o := by
      simp only [Run.begin, Run.bare, kept, moves]
    exact same ▸ .begins o stage (read next item) rfl
  | lingers o stage moves =>
    exact Or.inr (Or.inr (.lingers (r := r.bare s) o stage (left moves (by simp)) (h.undisturbed _)))
  | records o stage moves =>
    refine Or.inr (Or.inr ?_)
    have recorded := Change.records (s := s') (r := r.bare s) o stage (left moves (by simp))
    rw [h.target] at recorded
    exact recorded
  | fails o stage moves =>
    exact Or.inr (Or.inr (.fails (r := r.bare s) o stage (left moves (by simp))))
  | written stage moves =>
    exact Or.inr (Or.inr (.written (r := r.bare s) stage (by simp [Run.bare, moves]) rfl))
  | told stage moves =>
    exact Or.inr (Or.inr (.told (r := r.bare s) stage (by simp [Run.bare, moves])))
  | rested stage =>
    refine Or.inr (Or.inr ?_)
    have rested := Change.rested (s := s') (r := r.bare s) stage (h.undisturbed _) rfl
    rw [h.throttle] at rested
    exact rested

/-- The two runs start alike, unless the first is cancelled before it starts. -/
theorem bare_start (h : s.Erased s') (before : s.cancelledBefore = false) :
    (Run.start s).bare s = Run.start s' := by
  simp [Run.start, Run.bare, State.start, State.enter, State.result?, Setup.kept, before,
    h.nobody.before]

/-- After `n` steps the erased run is the other run after some number `m` of steps, or the relay has
    ended as cancelled; then the frames are still those of the other run after `m` steps. -/
theorem cut_short (h : s.Erased s') (n : Nat) :
    (∃ m, (Run.after s n).bare s = Run.after s' m) ∨
      (Run.after s n).result? = some .cancelled ∧
        ∃ m, (Run.after s n).frames = (Run.after s' m).frames := by
  induction n with
  | zero =>
    cases before : s.cancelledBefore with
    | false => exact Or.inl ⟨0, bare_start h before⟩
    | true =>
      refine Or.inr ⟨?_, 0, rfl⟩
      simp [Run.after, Run.start, State.start, State.enter, Run.result?, State.result?, before]
  | succ n ih =>
    rcases ih with ⟨m, same⟩ | ⟨ended, m, frames⟩
    -- Only a step of the erased run moves the other run on, from `m` to `m + 1`.
    · rcases bare_step h (step_change s (Run.after s n)) with ⟨ended, frames⟩ | still | moved
      · exact Or.inr ⟨ended, m, frames.trans (by rw [← same]; rfl)⟩
      · exact Or.inl ⟨m, still.trans same⟩
      · rw [same] at moved
        exact Or.inl ⟨m + 1, moved.eq_step⟩
    · have stays : Run.after s (n + 1) = Run.after s n := Run.step_of_ended ended
      rw [stays]
      exact Or.inr ⟨ended, m, frames⟩

/-- A settled run erases to a settled run. -/
theorem settled_bare (h : s.Erased s') (settled : Settled s r) : Settled s' (r.bare s) := by
  rcases settled with ⟨result, stage⟩ | ⟨pause, _, _⟩
  · exact Or.inl ⟨result, stage⟩
  · refine Or.inr ⟨?_, rfl, h.nobody.outside⟩
    cases pause with
    | silence stage next => exact .silence stage ((h.source _ (by simp [next])).trans next)
    | @hang o more stage moves =>
      have bare : (r.bare s).moves = .hang :: more.filter (· ≠ .cancel) := by
        simp [Run.bare, moves]
      exact .hang stage bare

/-! ## The client keeps what it has

The frames of a run only grow, by `Change.frames_cases`. -/

theorem frames_step (c : Change s r r') : r.frames <+: r'.frames := by
  rcases c.frames_cases with same | ⟨_, _, _, _, rfl⟩
  · exact same ▸ List.prefix_rfl
  · exact List.prefix_append _ _

theorem frames_after (s : Setup) (n d : Nat) :
    (Run.after s n).frames <+: (Run.after s (n + d)).frames := by
  induction d with
  | zero => exact List.prefix_rfl
  | succ d ih => exact ih.trans (frames_step (step_change s _))

/-! ## Scripts without their cancellations

What is left is that `Script.uncancelled` is an erased script (`Script.erased`). Its log is the
filtered array, so this is about where `List.filter` puts an element: `filter_at` and `kept_eq`. -/

/-- In the filtered list an element stands behind as many others as are kept before it. -/
theorem filter_at {log : List Feed.Step} {i : Nat} {x : Feed.Step} (at' : log[i]? = some x)
    (stays : x ≠ .cancel) :
    (log.filter (· ≠ .cancel))[((log.take i).filter (· ≠ .cancel)).length]? = some x := by
  obtain ⟨inside, rfl⟩ := List.getElem?_eq_some_iff.mp at'
  have whole : log = log.take i ++ log[i] :: log.drop (i + 1) := by
    rw [← List.drop_eq_getElem_cons inside, List.take_append_drop]
  have parted : log.filter (· ≠ .cancel) = (log.take i).filter (· ≠ .cancel) ++
      log[i] :: (log.drop (i + 1)).filter (· ≠ .cancel) := by
    refine (congrArg _ whole).trans ?_
    rw [List.filter_append, List.filter_cons_of_pos (by simpa using stays)]
  rw [parted, List.getElem?_append_right (Nat.le_refl _), Nat.sub_self, List.getElem?_cons_zero]

namespace Script

variable (s : Script)

/-- The script without all that cancels the token. -/
def uncancelled : Script where
  target := s.target
  throttle := s.throttle
  source := s.source.filter (· ≠ .cancel)
  plans := s.plans.map Plan.uncancelled
  cancelledBefore := false
  cancelAt := none

/-- Behind its bound, a script's run stays where it is. -/
theorem after_bound {n : Nat} (later : s.bound ≤ n) :
    Run.after s.setup n = Run.after s.setup s.bound := by
  obtain ⟨d, rfl⟩ := Nat.exists_eq_add_of_le later
  exact after_of_settled s.settled d

theorem frames_prefix (n : Nat) :
    (Run.after s.setup n).frames <+: (Run.after s.setup s.bound).frames := by
  rcases Nat.le_total n s.bound with before | later
  · obtain ⟨d, hd⟩ := Nat.exists_eq_add_of_le before
    exact hd ▸ frames_after s.setup n d
  · have same : (Run.after s.setup n).frames = (Run.after s.setup s.bound).frames :=
      congrArg Run.frames (s.after_bound later)
    exact same ▸ List.prefix_rfl

/-- A run that has settled is where it is at the script's bound. -/
theorem after_settled {n : Nat} (settled : Settled s.setup (Run.after s.setup n)) :
    Run.after s.setup n = Run.after s.setup s.bound := by
  rcases Nat.le_total n s.bound with before | later
  · obtain ⟨d, hd⟩ := Nat.exists_eq_add_of_le before
    exact hd ▸ (after_of_settled settled d).symm
  · exact s.after_bound later

/-- `Setup.kept` of a script, in terms of its array: the steps before `i` that are no cancellations,
    and the positions beyond the end of the array, all of which are kept. -/
theorem kept_eq (i : Nat) :
    s.setup.kept i =
      ((s.source.toList.take i).filter (· ≠ .cancel)).length + (i - s.source.size) := by
  induction i with
  | zero => simp [Setup.kept]
  | succ i ih =>
    rw [Setup.kept, ih, List.take_add_one, List.filter_append, List.length_append]
    change (if s.source[i]? = some .cancel then _ else _) = _
    rw [Array.getElem?_toList]
    by_cases inside : i < s.source.size
    · have past : i + 1 - s.source.size = i - s.source.size := by omega
      rw [Array.getElem?_eq_getElem inside, past]
      by_cases cancel : s.source[i] = .cancel
      · simp [cancel]
      · simp only [cancel, Option.some.injEq, if_false, Option.toList_some, ne_eq, not_false_eq_true,
          decide_true, List.filter_cons_of_pos, List.filter_nil, List.length_singleton]
        omega
    · have past : i + 1 - s.source.size = i - s.source.size + 1 := by omega
      rw [Array.getElem?_eq_none (Nat.le_of_not_lt inside), past]
      simp only [reduceCtorEq, if_false, Option.toList_none, List.filter_nil, List.length_nil]
      omega

/-- Leaving the cancellations out of a script is `Setup.Erased`. -/
theorem erased : s.setup.Erased s.uncancelled.setup where
  target := rfl
  throttle := rfl
  source i other := by
    change (s.source.filter (· ≠ .cancel))[s.setup.kept i]? = s.source[i]?
    rw [kept_eq, ← Array.getElem?_toList, Array.toList_filter, ← Array.getElem?_toList]
    by_cases inside : i < s.source.size
    -- Inside the array `filter_at` finds the step again; beyond it both logs have ended.
    · have at' : s.source.toList[i]? = some s.source[i] := List.getElem?_eq_getElem inside
      have stays : s.source[i] ≠ .cancel := by
        intro cancel
        simp [setup, inside, cancel] at other
      rw [Nat.sub_eq_zero_of_le (Nat.le_of_lt inside), Nat.add_zero, filter_at at' stays, at']
    · have past : s.source.toList.length ≤ i := Nat.le_of_not_lt inside
      rw [List.take_of_length_le past, List.getElem?_eq_none (Nat.le_add_right _ _),
        List.getElem?_eq_none past]
  plan k := by
    change (s.plans.map Plan.uncancelled)[k]?.getD .smooth = (s.plans[k]?.getD .smooth).uncancelled
    cases at' : s.plans[k]? with
    | none => simp [at']; rfl
    | some p => simp [at']
  nobody := s.uncancelled.nobodyCancels rfl rfl (by simp [uncancelled])
    (by simp [uncancelled, Plan.uncancelled])

end Script

/-! ## Cut short -/

/-- **Cancelling only cuts a run short.** Take a script, and the same script without everything that
    cancels its token: beforehand, from outside, while the log is read, or in the course of a write.

    Both runs settle within their bounds. At every moment the frames of the first are a prefix of
    the frames that the second has in the end, with the times at which they came. And if the first
    relay does not end as cancelled, it ends as the second does, at the same time and with the same
    frames, count and notes, or waits for ever as the second does. -/
theorem cancelling_cuts_short (s : Script) :
    let run := Run.after s.setup
    let last := run s.bound
    let full := Run.after s.uncancelled.setup s.uncancelled.bound
    ((∀ n, s.bound ≤ n → run n = last) ∧
        ∀ n, s.uncancelled.bound ≤ n → Run.after s.uncancelled.setup n = full) ∧
      (∀ n, (run n).frames <+: full.frames) ∧
      (last.result? = some .cancelled ∨
        last.result? = full.result? ∧ last.now = full.now ∧ last.frames = full.frames ∧
          last.relay.forwarded = full.relay.forwarded ∧ last.events = full.events) := by
  intro run last full
  refine ⟨⟨fun _ => s.after_bound, fun _ => s.uncancelled.after_bound⟩, fun n => ?_, ?_⟩
  · have frames : ∃ m, (run n).frames = (Run.after s.uncancelled.setup m).frames := by
      rcases cut_short s.erased n with ⟨m, same⟩ | ⟨_, frames⟩
      · exact ⟨m, by rw [← same]; rfl⟩
      · exact frames
    obtain ⟨m, frames⟩ := frames
    exact frames ▸ s.uncancelled.frames_prefix m
  · rcases cut_short s.erased s.bound with ⟨m, same⟩ | ⟨ended, _⟩
    -- A settled run erases to a settled run, so the other has settled too and is the same.
    · have settled := settled_bare s.erased s.settled
      rw [same] at settled
      have whole : last.bare s.setup = full := same.trans (s.uncancelled.after_settled settled)
      exact Or.inr (whole ▸ ⟨rfl, rfl, rfl, rfl, rfl⟩)
    · exact Or.inl ended

end Relay

end PodTail
