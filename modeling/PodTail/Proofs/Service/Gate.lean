import PodTail.Proofs.Service.Stillness
import PodTail.Proofs.Web.Handshake

/-!
# At the gate

`Handler.judge` checks a streaming request in two steps: `Handshake.key` for the upgrade, then
`Token.of?` for the token. `gate_and_echo` says which request fails which check and what follows,
for the whole `World.request` and not for the judge alone:

* a request that is not `Handshake.Proper` is answered with 400, with or without a token;
* a proper one without a token is answered with 401;
* any other is answered with 101 and begins a session, and the response names the token as a
  protocol exactly if the client offered it (`Token.Offers`).

`TurnedAway` holds the first two together. It says that no cluster is asked anything, whichever
cluster it is, that no session begins, and that the world is the one before with one event more and
settled. `LetIn` is the third. That no session begins is said by `Service.targets`, which lists what
the sessions are about: inputs of sessions do not change it (`step_target`), so it is an invariant
of `settle` by `Lasting.kept`.

The cluster is arbitrary and the world too. With a cluster in memory, after any deeds, `Quiet` makes
the settling vacuous (`turned_away_at_work`).
-/

set_option autoImplicit false

namespace PodTail

/-! ## What a session is about

A session never changes its target. There is one lemma for each function that `Session.step` calls.
-/

namespace Session

variable (s : Session) (shutdown : Bool)

theorem part_target (result : RelayEnd) : (s.part result).1.target = s.target := by
  unfold part
  split <;> rfl

theorem endRelay_target (source : OpenLog) (before after : List Event) (result : RelayEnd) :
    (s.endRelay source before after result).1.target = s.target :=
  part_target _ result

theorem beginRelay_target (source : OpenLog) :
    (s.beginRelay shutdown source).1.target = s.target := by
  unfold beginRelay
  dsimp only
  split
  · exact endRelay_target ..
  · rfl

theorem follow_target (d : Lookup OpenLog) : (s.follow shutdown d).1.target = s.target := by
  unfold follow
  dsimp only
  split
  · exact beginRelay_target ..
  · rfl
  · rfl

theorem start_target (label : String) (tail : Option Int) (t : Target) :
    (start label tail shutdown t).1.target = t :=
  follow_target _ shutdown _

theorem relayStep_target (r : Relay.State) (source : OpenLog) (arm : Relay.Arm) :
    (s.relayStep shutdown r source arm).1.target = s.target := by
  unfold relayStep
  dsimp only
  -- whichever arm is taken, only the end of the relay makes more of the session than its stage
  repeat' split
  all_goals first
    | rfl
    | exact endRelay_target ..

theorem watcherDone_target : s.watcherDone.1.target = s.target := by
  unfold watcherDone
  dsimp only
  split
  · exact part_target ..
  · rfl

theorem clientStep_target (signal : Signal) : (s.clientStep signal).1.target = s.target := by
  unfold clientStep
  split
  · exact watcherDone_target _
  · rfl

/-- No input changes the target of a session, by the cases of `step`. -/
theorem step_target (i : Input) : (s.step shutdown i).1.target = s.target := by
  unfold step
  split
  · exact follow_target ..
  · exact follow_target ..
  · exact follow_target ..
  · exact relayStep_target ..
  · rfl
  · rfl
  · rfl
  · exact clientStep_target ..
  · split
    · exact watcherDone_target _
    · rfl
  · rfl

end Session

namespace Service

/-- What the sessions are about, in the order in which they began. -/
def targets (s : Service) : List Target :=
  s.sessions.map (·.target)

theorem targets_session (s : Service) (i : Nat) (input : Session.Input) :
    (s.step (.session i input)).1.targets = s.targets := by
  cases found : s.sessions[i]? with
  | none => simp only [step, found]
  | some session =>
    obtain ⟨small, rfl⟩ := List.getElem?_eq_some_iff.mp found
    have same : (s.sessions.map (·.target)).set i s.sessions[i].target =
        s.sessions.map (·.target) := by
      rw [← List.getElem_map Session.target (h := by simpa using small), List.set_getElem_self]
    simp only [step, found, targets, List.map_set, Session.step_target, same]

theorem targets_accept (s : Service) (t : Target) :
    (s.step (.accept t)).1.targets = s.targets ++ [t] := by
  simp only [step, targets, List.map_append, List.map_singleton, Session.start_target]

end Service

namespace World

variable {σ : Type} {w : World σ}

/-! ## What goes on without a request

A predicate of the service alone that no input of a session can falsify is `Kept`, with any cluster.
It is used for `targets`. -/

section

theorem service_give (w : World σ) (input : Service.Input) :
    (w.give input).service = (w.service.step input).1 :=
  (like_give w input).service

/-- No input of a session makes `P` false. -/
def Lasting (P : Service → Prop) : Prop :=
  ∀ (s : Service) (i : Nat) (input : Session.Input), P s → P (s.step (.session i input)).1

theorem Lasting.give {P : Service → Prop} (lasts : Lasting P) (h : P w.service) (i : Nat)
    (input : Session.Input) : P (w.give (.session i input)).service := by
  rw [service_give]
  exact lasts _ _ _ h

theorem Lasting.resume {P : Service → Prop} (lasts : Lasting P) (h : P w.service) (i : Nat)
    (input : Session.Input) : P (World.resume i input id w).service := by
  unfold World.resume
  split
  · exact h
  · exact lasts.give h i input

/-- Inside a deed the service is given nothing but inputs of its sessions, so `Lasting` is enough.
    -/
theorem Lasting.kept {P : Service → Prop} (lasts : Lasting P) :
    Kept fun w : World σ => P w.service where
  frame h _ _ service _ _ := by rwa [service]
  give h i input _ := lasts.give h i input
  list h _ _ := h
  get h _ _ := h
  log h i _ _ _ _ _ _ := by
    refine lasts.resume ?_ i _
    exact h
  expect h _ _ _ _ _ := h
  reached h _ l _ _ _ _ := by
    refine lasts.resume ?_ l.session _
    exact h

theorem lasting_targets (ts : List Target) : Lasting fun s => s.targets = ts :=
  fun s i input h => (s.targets_session i input).trans h

end

theorem targets_settle (w : World σ) : (settle w).service.targets = w.service.targets :=
  (lasting_targets w.service.targets).kept.settle rfl

/-! ## Streaming requests -/

end World

/-- What a streaming request asks for. -/
def Route.target? : Route → Option Target
  | .podLogs ns pod container => some (.ofPod ns pod container)
  | .cappLogs ns capp pod container => some (.ofCapp ns capp pod container)
  | _ => none

namespace Handler

variable {σ : Type} {r : Request} {route : Route} {t : Target}

/-- A streaming request has no question for the cluster, so it is answered without delay. -/
theorem question_streaming (settings : Settings) (streams : route.target? = some t) :
    question? settings route = none := by
  cases route with
  | podLogs | cappLogs => rfl
  | health | containers | pods => cases streams

theorem serve_streaming (settings : Settings) (present : Instant) (c : Cluster σ) (s : σ)
    (streams : route.target? = some t) :
    serve settings present c s r route =
      ((judge settings.tokenHeader r t).1, (judge settings.tokenHeader r t).2, s) := by
  cases route with
  | podLogs ns pod container =>
    obtain rfl := Option.some.inj streams
    rfl
  | cappLogs ns capp pod container =>
    obtain rfl := Option.some.inj streams
    rfl
  | health | containers | pods => cases streams

theorem handle_answer (settings : Settings) (present : Instant) (c : Cluster σ) (s : σ)
    (leads : Route.of r = .ok route) (streams : route.target? = some t) {response : Response}
    {events : List Event} (judged : judge settings.tokenHeader r t = (.answer response, events)) :
    handle settings present c s r = (.answer (shown r response), events, s) := by
  rw [handle_route settings present c s leads, serve_streaming settings present c s streams, judged]

theorem handle_accept (settings : Settings) (present : Instant) (c : Cluster σ) (s : σ)
    (leads : Route.of r = .ok route) (streams : route.target? = some t) {response : Response}
    {events : List Event} (judged : judge settings.tokenHeader r t = (.accept response t, events)) :
    handle settings present c s r = (.accept response t, events, s) := by
  rw [handle_route settings present c s leads, serve_streaming settings present c s streams, judged]

theorem judge_faulty {name : String} {fault : Handshake.Fault}
    (faulty : Handshake.key r.method r.headers r.upgradable = .error fault) :
    judge name r t =
      (.answer (refusal (.handshake fault.message)), [.handshakeRejected t fault.message]) := by
  simp only [judge, faulty]

end Handler

namespace World

variable {σ : Type} {w : World σ} {name : Option String} {r : Request} {route : Route} {t : Target}

/-- The world with one event more. -/
def noting (w : World σ) (e : Event) : World σ :=
  { w with events := w.events ++ [e] }

/-- A request is answered with a status, and something is noted. Nothing else comes of it: no
    cluster is asked anything, no session begins, and everybody goes on as if it had not come. -/
structure TurnedAway (w : World σ) (name : Option String) (r : Request) (status : Nat) (note : Event) :
    Prop where
  handled : ∃ refused, refused.status = status ∧
    (∀ {τ : Type} (c : Cluster τ) (s : τ),
      Handler.handle w.service.settings w.present c s r = (.answer refused, [note], s)) ∧
    w.request name r = (some refused, settle (w.noting note))
  begun : (w.request name r).2.service.targets = w.service.targets

/-- A request is answered by handing its connection over, and a session for its target begins. The
    answer names the token as a protocol if the client has offered it as one, and otherwise names
    none. -/
structure LetIn (w : World σ) (name : Option String) (r : Request) (t : Target) (token : List UInt8) :
    Prop where
  status : (w.request name r).1.map Response.status = some 101
  begun : (w.request name r).2.service.targets = w.service.targets ++ [t]
  echoed : Token.Offers r.headers token → (w.request name r).1.map Response.protocols = some [token]
  silent : ¬ Token.Offers r.headers token → (w.request name r).1.map Response.protocols = some []

/-- If `judge` answers a streaming request, the request is `TurnedAway`. -/
theorem turnedAway_of_judged (w : World σ) (name : Option String) (leads : Route.of r = .ok route)
    (streams : route.target? = some t) {response : Response} {note : Event}
    (judged : Handler.judge w.service.settings.tokenHeader r t = (.answer response, [note])) :
    TurnedAway w name r response.status note := by
  have handled {τ : Type} (c : Cluster τ) (s : τ) :=
    Handler.handle_answer w.service.settings w.present c s leads streams judged
  have status : (Handler.shown r response).status = response.status := by
    unfold Handler.shown
    split <;> rfl
  have answered : w.request name r = (some (Handler.shown r response), settle (w.noting note)) := by
    have asks := Handler.question_streaming w.service.settings streams
    simp only [request, leads, Except.toOption, Option.bind_some, asks, Option.bind_none,
      Option.getD_none, handled]
    rfl
  refine ⟨⟨_, status, handled, answered⟩, ?_⟩
  rw [answered]
  exact targets_settle _

/-- If `judge` accepts a streaming request, the response is the judge's and one session begins. -/
theorem begins_of_judged (w : World σ) (name : Option String) (leads : Route.of r = .ok route)
    (streams : route.target? = some t) {response : Response}
    (judged : Handler.judge w.service.settings.tokenHeader r t = (.accept response t, [])) :
    (w.request name r).1 = some response ∧
      (w.request name r).2.service.targets = w.service.targets ++ [t] := by
  have handled := Handler.handle_accept w.service.settings w.present w.cluster w.state leads streams
    judged
  -- no question, so no delay: the session begins in the world as it is
  have asks := Handler.question_streaming w.service.settings streams
  have lasting := lasting_targets (w.service.targets ++ [t])
  simp only [request, leads, Except.toOption, Option.bind_some, asks, Option.bind_none,
    Option.getD_none, handled, if_true]
  refine ⟨trivial, lasting.kept.settle ?_⟩
  dsimp only
  have begun {w' : World σ} (same : w'.service = w.service) :
      (converse w.service.sessions.length questions (w'.give (.accept t))).service.targets =
        w.service.targets ++ [t] := by
    refine lasting.kept.converse ?_ _ _
    rw [service_give, Service.targets_accept, same]
  -- a socket held under the same name is dropped, which gives an input to another session only
  split
  · refine lasting.kept.drop ?_ _
    exact begun rfl
  · exact begun rfl

/-- The 400 of a request that is not a handshake, with the fault that is reported. -/
theorem turnedAway_improper (w : World σ) (name : Option String) (leads : Route.of r = .ok route)
    (streams : route.target? = some t) (improper : ¬ Handshake.Proper r) :
    ∃ fault, Handshake.Fault.Lacks r fault ∧
      TurnedAway w name r 400 (.handshakeRejected t fault.message) := by
  obtain ⟨fault, faulty, lacks⟩ := Handshake.fault_of_improper improper
  exact ⟨fault, lacks, turnedAway_of_judged w name leads streams (Handler.judge_faulty faulty)⟩

/-- The 401 of a handshake without a token. -/
theorem turnedAway_tokenless (w : World σ) (name : Option String) (leads : Route.of r = .ok route)
    (streams : route.target? = some t) (proper : Handshake.Proper r)
    (tokenless : Token.of? r.headers w.service.settings.tokenHeader = none) :
    TurnedAway w name r 401 (.tokenMissing t) := by
  obtain ⟨key, given⟩ := proper.given
  exact turnedAway_of_judged w name leads streams (Token.judge_missing t given tokenless)

/-- A handshake with a token. The echo is `Handler.protocols_switching`, on the response of the
    judge. -/
theorem letIn (w : World σ) (name : Option String) (leads : Route.of r = .ok route)
    (streams : route.target? = some t) (proper : Handshake.Proper r) {token : List UInt8}
    (carried : Token.of? r.headers w.service.settings.tokenHeader = some token) :
    LetIn w name r t token := by
  obtain ⟨key, given⟩ := proper.given
  obtain ⟨response, begun⟩ :=
    begins_of_judged w name leads streams (Token.judge_carried t given carried)
  obtain ⟨echoed, silent⟩ := Handler.protocols_switching carried key
  refine ⟨?_, begun, fun offers => ?_, fun withheld => ?_⟩ <;> rw [response, Option.map_some]
  · rfl
  · rw [echoed offers]
  · rw [silent withheld]

/-- After any deeds with a cluster in memory, a request that is turned away changes nothing but the
    events: `TurnedAway` gives the world with one event more and settled, and that world is `Quiet`.
    -/
theorem turned_away_at_work (settings : Settings) (present : Instant) (m : Memory) (deeds : List Deed)
    {status : Nat} {note : Event} :
    let w := deeds.foldl after (start settings present Memory.cluster m)
    TurnedAway w name r status note → (w.request name r).2 = w.noting note := by
  intro w away
  have rests := Quiet.rests settings m
  have quiet : Quiet settings m w := rests.run (quiet_start settings present m) deeds
  have noted : Quiet settings m (w.noting note) := rests.frame quiet rfl rfl rfl rfl rfl
  obtain ⟨refused, _, _, answered⟩ := away.handled
  rw [answered, noted.settle_same]

/-- **The gate.** A streaming request whose path and query can be read is turned away with 400 if it
    is no handshake, with or without a token; with 401 if it is one and has no token; and is let in
    otherwise, whatever other headers it has. A token listed in the header for protocols is named in
    the response, and by `LetIn.silent` no token is named that the client has not offered as a
    protocol. -/
theorem gate_and_echo (w : World σ) (name : Option String) {r : Request} {route : Route} {t : Target}
    (leads : Route.of r = .ok route) (streams : route.target? = some t) :
    (¬ Handshake.Proper r → ∃ fault, Handshake.Fault.Lacks r fault ∧
        TurnedAway w name r 400 (.handshakeRejected t fault.message)) ∧
      (Handshake.Proper r →
        let tokenHeader := w.service.settings.tokenHeader
        (Token.of? r.headers tokenHeader = none → TurnedAway w name r 401 (.tokenMissing t)) ∧
        ∀ token, Token.of? r.headers tokenHeader = some token →
          LetIn w name r t token ∧
            (Header.sameName tokenHeader Token.protocolHeader = true →
              Token.Listed r.headers tokenHeader token →
              (w.request name r).1.map Response.protocols = some [token])) := by
  refine ⟨turnedAway_improper w name leads streams, ?_⟩
  intro proper tokenHeader
  refine ⟨turnedAway_tokenless w name leads streams proper, ?_⟩
  intro token carried
  have inside := letIn w name leads streams proper carried
  refine ⟨inside, ?_⟩
  intro same listed
  exact inside.echoed (listed.offers same)

/-- A handshake in which a token is offered, and something else with it. -/
def offering : Request where
  method := "GET"
  uri := ⟨"/v1/logs/pod/ns/web", none⟩
  headers :=
    [⟨"Connection", Utf8.bytes "keep-alive, Upgrade"⟩, ⟨"Upgrade", Utf8.bytes "WebSocket"⟩,
      ⟨"Sec-WebSocket-Version", Utf8.bytes "13"⟩,
      ⟨"Sec-WebSocket-Key", Utf8.bytes "dGhlIHNhbXBsZSBub25jZQ=="⟩,
      ⟨"Sec-WebSocket-Protocol", Utf8.bytes " tok , chat"⟩]
  upgradable := true

/-- A service without pods. -/
def deserted : World Memory :=
  start Settings.standard ⟨0, false⟩ Memory.cluster ⟨[], [], .close, 0, 0, []⟩

/-- `gate_and_echo` on `offering`: the response names the token and a session begins. On the same
    request without the possibility of an upgrade it gives a 400. -/
theorem offering_is_echoed :
    (deserted.request none offering).1.map Response.protocols = some [Utf8.bytes "tok"] ∧
      (deserted.request none offering).2.service.targets = [.ofPod "ns" "web" none] ∧
      ∃ note, TurnedAway deserted none { offering with upgradable := false } 400 note := by
  have leads : Route.of offering = .ok (.podLogs "ns" "web" none) := rfl
  have carried : Token.of? offering.headers Token.protocolHeader = some (Utf8.bytes "tok") := rfl
  have key : Handshake.key offering.method offering.headers true =
      .ok (Utf8.bytes "dGhlIHNhbXBsZSBub25jZQ==") := rfl
  have proper : Handshake.Proper offering := (Handshake.key_eq_ok.mp key).1
  have listed := (Token.ofHeader?_eq_some.mp (rfl : Token.ofHeader? offering.headers
    Token.protocolHeader = some (Utf8.bytes "tok"))).2
  have inside := ((gate_and_echo deserted none leads rfl).2 proper).2 _ carried
  have outside := (gate_and_echo deserted none (r := { offering with upgradable := false })
    leads rfl).1 (fun proper => by simpa using proper.upgradable)
  obtain ⟨fault, _, away⟩ := outside
  exact ⟨inside.2 rfl listed, inside.1.begun, _, away⟩

end World

end PodTail
