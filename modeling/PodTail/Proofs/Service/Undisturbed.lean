import PodTail.Proofs.Service.Shutdown
import PodTail.Proofs.Service.Stillness

/-!
# Only leaving disturbs

A stream goes one way, and what a client sends on its socket is read only to notice that the client
leaves. `only_leaving_disturbs` puts together what this means.

* Messages can be left out. `run_messages` says it for `Shared.run`, where a message is a step that
  changes nothing, and `World.undisturbed_at_work` for a service at work, where it follows from
  `Quiet`.
* A token is cancelled for a reason. `Service.Reasoned` ties the tokens of all sessions to the
  inputs that came: the client left (`Left`), the service was shut down, or the relay returned. It
  is kept by each step (`Reasoned.step`, from `Session.Accounted.change`) and so holds of each run
  (`reasoned_run`).
* The watcher ends. `Wait.turns_out` says that it is done after one turn more than there are signals
  left, whichever way each of its choices goes.
-/

set_option autoImplicit false

namespace PodTail

open Session (Act Accounted Wait deeds)

/-- The frames that are messages: all but a close, up to the length that the protocol allows them.
    -/
theorem Frame.signal_message (f : Frame) (length : Nat) :
    f.signal length = .message ↔ f ≠ .close ∧ length ≤ match f with
      | .ping | .pong => Frame.controlLimit
      | _ => Frame.payloadLimit := by
  cases f with
  | close => simp [Frame.signal]
  | ping | pong | text | binary =>
    simp only [Frame.signal]
    split
    next great => simpa using great
    next fits => simpa using Nat.le_of_not_lt fits

namespace Service

variable {s : Service} {acts : List (Nat × Act)} {inputs : List Input}

/-! ## Reasons -/

/-- The client of a session has left: it has closed, or its end of the socket has failed or ended.
    -/
def Left (i : Nat) (inputs : List Input) : Prop :=
  ∃ signal, signal ≠ .message ∧ .session i (.client signal) ∈ inputs

/-- The invariant: each session is `Session.Accounted`, with the reasons read off the inputs so far.
    -/
structure Reasoned (inputs : List Input) (s : Service) (acts : List (Nat × Act)) : Prop where
  histories : Histories s acts
  stopped : s.shutdown = true → .shutdown ∈ inputs
  each : ∀ i session, s.sessions[i]? = some session →
    Accounted (Left i inputs) (.shutdown ∈ inputs) session (actsOf i acts)

/-- A step keeps `Reasoned`, by the `Turn` of each session: it begins, takes the input, or is not
    touched. -/
theorem Reasoned.step (reasoned : Reasoned inputs s acts) {input : Input} (came : input ∈ inputs) :
    Reasoned inputs (s.step input).1 (acts ++ (s.step input).2) where
  histories := reasoned.histories.step input
  stopped := by
    cases input with
    | shutdown => exact fun _ => came
    | accept t => exact reasoned.stopped
    | session i own =>
      simp only [Service.step]
      split <;> exact reasoned.stopped
  each := by
    intro i session found
    rw [actsOf_append]
    have turn := turn found
    generalize actsOf i (s.step input).2 = done at turn ⊢
    cases turn with
    | idle same =>
      rw [List.append_nil]
      exact reasoned.each i session same
    | @begins t here _ began =>
      -- the number is new, so no act so far carries it
      have silent : actsOf i acts = [] :=
        actsOf_others fun a mem => Nat.ne_of_lt (here ▸ reasoned.histories.known a mem)
      rw [silent, List.nil_append, began]
      exact Session.accounted_start ..
    | @takes before own here eq took =>
      have change := reasoned.histories.change here own
      rw [took]
      refine (reasoned.each i before here).change reasoned.stopped ?_ change
      rintro signal rfl leaving
      refine ⟨signal, ?_, eq ▸ came⟩
      rintro rfl
      exact leaving rfl

theorem reasoned_run (settings : Settings) (inputs : List Input) :
    Reasoned inputs ((start settings).run inputs).1 ((start settings).run inputs).2 :=
  run_keeps_of (P := Reasoned inputs) inputs (fun _ _ _ came reasoned => reasoned.step came) []
    ⟨Histories.start settings, nofun, fun i session found => by simp [start] at found⟩

/-- An act carries the number of a session that there is. -/
theorem Histories.session (histories : Histories s acts) {i : Nat} {a : Act} (mem : (i, a) ∈ acts) :
    ∃ session, s.sessions[i]? = some session :=
  ⟨_, List.getElem?_eq_getElem (histories.known (i, a) mem)⟩

theorem Reasoned.ended (reasoned : Reasoned inputs s acts) {i : Nat} {t : Target}
    (mem : (i, .note (.sessionEnded t .cancelled)) ∈ acts) : Left i inputs ∨ .shutdown ∈ inputs := by
  obtain ⟨session, found⟩ := reasoned.histories.session mem
  refine (reasoned.each i session found).ended t ?_
  exact List.mem_filter.mpr ⟨mem_actsOf.mpr mem, rfl⟩

end Service

namespace Shared

variable {σ : Type} {c : Cluster σ}

/-! ## Messages -/

/-- A client sends a message. -/
def Happening.isMessage : Happening → Bool
  | .comes _ (.client .message) _ => true
  | _ => false

theorem step_message (c : Cluster σ) (w : Shared σ) {h : Happening} (message : h.isMessage = true) :
    w.step c h = w := by
  unfold Happening.isMessage at message
  split at message
  next i _ => simp [Shared.step, give, Service.step_message, perform]
  next => cases message

/-- A run without its messages is the same run, with the same acts in the same order. -/
theorem run_messages (c : Cluster σ) (w : Shared σ) (happenings : List Happening) :
    run c w (happenings.filter (!·.isMessage)) = run c w happenings := by
  refine foldl_but_idle (P := fun _ => True) (fun _ _ _ => trivial) ?_ trivial happenings
  intro w h _ message
  exact step_message c w (by simpa using message)

/-! ## What disturbs a stream -/

open Service (Left)

/-- **Nothing a client sends disturbs its stream but its leaving.** A frame is a message unless it
    is a close or too long. A run of sessions that share a cluster is the same run without its
    messages: the same sessions, cluster state and acts. A service at work comes to the same world
    without them.

    The token of a session is cancelled only if its client has left, the service was shut down, or
    its relay has returned; and a session ends as cancelled only for one of the first two.

    Once the relay has returned, the watcher is done after one turn for each signal still unread and
    one more, whichever branches it takes (`choices`). They decide only which farewells are noted:
    the socket is closed once, and the session ends with the result it had. -/
theorem only_leaving_disturbs (c : Cluster σ) (state : σ) (settings : Settings)
    (happenings : List Happening) (present : Instant) (m : Memory) (deeds : List World.Deed)
    (inputs : List Service.Input) :
    (∀ (f : Frame) length, f.signal length = .message ↔ f ≠ .close ∧ length ≤ match f with
      | .ping | .pong => Frame.controlLimit
      | _ => Frame.payloadLimit) ∧
    run c (start settings state) (happenings.filter (!·.isMessage)) =
      run c (start settings state) happenings ∧
    (let w := World.start settings present Memory.cluster m
     (deeds.filter (!·.isMessage)).foldl World.after w = deeds.foldl World.after w) ∧
    (let s := ((Service.start settings).run inputs).1
     let acts := ((Service.start settings).run inputs).2
     (∀ i t, (i, .note (.sessionEnded t .cancelled)) ∈ acts →
        Left i inputs ∨ .shutdown ∈ inputs) ∧
      ∀ i session, s.sessions[i]? = some session →
        ((session.cancelled || s.shutdown) = true → Left i inputs ∨ .shutdown ∈ inputs ∨
          ∃ n result, (i, .note (.relayFinished n result)) ∈ acts) ∧
        (session.stage.result? = some .cancelled → Left i inputs ∨ .shutdown ∈ inputs) ∧
        ∀ result, session.stage = .parting result →
          ∀ (unread : List Session.Signal) (choices : List (Bool × Bool)),
            unread.length < choices.length →
            let w := choices.foldl Wait.turn ⟨session, unread, []⟩
            w.session = session.waited result ∧
              (∃ notes : List Event, (∀ e ∈ notes, e.isFarewell = true) ∧
                w.acts = notes.map .note ++ [.close]) ∧
              ∀ shutdown, w.session.step shutdown .socketDone =
                ({ w.session with stage := .over }, [.note (.sessionEnded session.target result)])) := by
  refine ⟨Frame.signal_message, run_messages c _ happenings,
    World.undisturbed_at_work settings present m deeds, ?_⟩
  intro s acts
  have reasoned : Service.Reasoned inputs s acts := Service.reasoned_run settings inputs
  refine ⟨fun i t mem => reasoned.ended mem, ?_⟩
  intro i session found
  have accounted := reasoned.each i session found
  refine ⟨?_, accounted.result, ?_⟩
  · -- a session is called off by its own token or by the one it shares
    intro token
    rcases Bool.or_eq_true_iff.mp token with cancelled | down
    · rcases accounted.token cancelled with left | ⟨-, n, result, mem⟩
      · exact Or.inl left
      · exact Or.inr (Or.inr ⟨n, result, Service.mem_actsOf.mp mem⟩)
    · exact Or.inr (Or.inl (reasoned.stopped down))
  · intro result stage unread choices enough w
    have out : Wait.Out session result [] w :=
      Wait.turns_out stage (reasoned.histories.attended found) enough
    refine ⟨out.session, out.acts, ?_⟩
    intro shutdown
    rw [out.session]
    rfl

end Shared

end PodTail
