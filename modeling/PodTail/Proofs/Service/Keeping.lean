import PodTail.Proofs.Service.Answers

/-!
# What the functions of a world keep

The functions of `World` are walked through here, once, for all invariants. `converse` has the
cluster answer a session, `settleLine` lets one line go on and `settle` all of them, `proceed` moves
the time, and `request`, `connect`, `send`, `receive`, `drop` and `shutdown` are what clients and
the operator do. When one of these changes, its lemma here needs work and the invariants do not.

There are two kinds of invariant, and a structure of obligations for each.

* `Kept P`: `P` holds at every moment, also in the middle of a deed. Its fields are the places where
  a `World` changes what matters: an input given to a session, a question to the cluster, an answer
  that is on its way. Everything else changes only what clients hold and what is noted, and is
  covered by `frame`. From these follow `Kept.converse`, `Kept.settleLine`, `Kept.settle` and the
  others.
* `Rests P Q`: `P` is kept inside a deed, and `Q` holds whenever the world is settled. Its extra
  fields are those of a whole deed: time passes, a session begins, the service is shut down. From
  these follow `Rests.after`, for one deed, and `Rests.run`, for any list of deeds.

`Kept.rests` makes an invariant of the second kind from one of the first. The instances are
`AsShared`, `Seated` and `Quiet` for a cluster in memory, and `Lasting` for any cluster.
-/

set_option autoImplicit false

namespace PodTail

namespace World

variable {σ : Type} {w w' : World σ}

/-! ## Lines

A `Line` has more fields than an invariant should depend on. `Line.key` are the two that the service
sees, and `Line.wait` those that decide how long the line waits. Most changes of lines are to other
fields, so they keep the list of keys (`map_onLine`, `map_modify`, `map_set`). -/

/-- What a line is for the service: whose it is, and what answer it expects. -/
def Line.key (l : Line) : Nat × Option (List Event × Session.Input) :=
  (l.session, l.expected)

/-- What a line waits with: its session, what it expects, its log, and when it wakes. -/
def Line.wait (l : Line) :
    Nat × Option (List Event × Session.Input) × Feed × Option Nat :=
  (l.session, l.expected, l.feed, l.wakes)

theorem map_onLine {α : Type} (p : Line → α) (w : World σ) (i : Nat) {f : Line → Line}
    (keeps : ∀ l, p (f l) = p l) : (w.onLine i f).lines.map p = w.lines.map p := by
  rw [onLine, List.map_map]
  refine List.map_congr_left fun l _ => ?_
  rw [Function.comp_apply]
  split
  · exact keeps l
  · rfl

theorem map_modify {α : Type} (p : Line → α) (lines : List Line) (k : Nat) {f : Line → Line}
    (keeps : ∀ l, p (f l) = p l) : (lines.modify k f).map p = lines.map p := by
  refine List.ext_getElem? fun j => ?_
  rw [List.getElem?_map, List.getElem?_map, List.getElem?_modify]
  cases lines[j]? with
  | none => rfl
  | some l =>
    by_cases own : k = j
    · simp [own, keeps]
    · simp [own]

theorem map_set {α : Type} (p : Line → α) {lines : List Line} {k : Nat} {l l' : Line}
    (here : lines[k]? = some l) (same : p l' = p l) : (lines.set k l').map p = lines.map p := by
  obtain ⟨small, rfl⟩ := List.getElem?_eq_some_iff.mp here
  rw [List.map_set, same, ← List.getElem_map p (h := by simpa using small), List.set_getElem_self]

/-- The key is a part of what a line waits with. -/
theorem keys_of_waits {lines lines' : List Line}
    (same : lines'.map Line.wait = lines.map Line.wait) :
    lines'.map Line.key = lines.map Line.key := by
  have keys := congrArg (List.map fun wait => (wait.1, wait.2.1)) same
  rw [List.map_map, List.map_map] at keys
  exact keys

/-- A move keeps the key of its line, and the input it gives is not an answer for a log. -/
def Move.Own (l : Line) : Move → Prop
  | .go l' input => l'.key = l.key ∧ ∀ answer, input ≠ some (.opened answer)
  | .wait l' => l'.key = l.key

/-- A pause changes `wakes` only, and gives the input it was made with. -/
theorem own_pause {now ms : Nat} {l after : Line} {input : Option Session.Input}
    (same : after.key = l.key) (other : ∀ answer, input ≠ some (.opened answer)) :
    (pause now ms l after input).Own l := by
  unfold pause
  split
  · split
    · exact ⟨same, other⟩
    · rfl
  · split
    · exact ⟨same, other⟩
    · rfl

/-- Every move is the line's own, by cases as `move` has them: the stage of the session, then the
    stage of its relay, then the next step of the log. -/
theorem own_move (w : World σ) (s : Session) (l : Line) : (move w s l).Own l := by
  unfold move
  cases s.stage with
  | apologising | closing | parting => exact ⟨rfl, fun _ => nofun⟩
  | relaying r watcher =>
    dsimp only
    split
    next => exact ⟨rfl, fun _ => nofun⟩
    next => rfl
    next =>
      split
      next => exact ⟨rfl, fun _ => nofun⟩
      next =>
        split
        next => exact own_pause rfl fun _ => nofun
        next =>
          -- the fourth case waits for a step of the log, the fifth is a log that is silent
          split
          case h_4 => exact own_pause rfl fun _ => nofun
          case h_5 => rfl
          all_goals exact ⟨rfl, fun _ => nofun⟩
  | _ => rfl

/-- The world behind a move of line `k`: the line is put back, and its input is given to the
    session. -/
def moved (w : World σ) (k : Nat) (l : Line) : Option Session.Input → World σ
  | none => { w with lines := w.lines.set k l }
  | some input => give { w with lines := w.lines.set k l } (.session l.session input)

/-! ## Acts

`World.give` is a step of the service and then the acts of that step. The acts change no more than
`Like` leaves open, so for an invariant about the other fields `give` is the step alone
(`like_give`). -/

/-- The two worlds differ at most in what clients hold, in what is noted and in the cluster's state.
    -/
structure Like (w w' : World σ) : Prop where
  cluster : w'.cluster = w.cluster
  service : w'.service = w.service
  now : w'.now = w.now
  lines : w'.lines.map Line.key = w.lines.map Line.key

/-- Acts leave a world as `Like` says, by induction on their list. -/
theorem like_acts (w : World σ) (acts : List (Nat × Session.Act)) : Like w (acts.foldl act w) := by
  induction acts generalizing w with
  | nil => exact ⟨rfl, rfl, rfl, rfl⟩
  | cons a acts ih =>
    obtain ⟨i, act⟩ := a
    have first : Like w (w.act (i, act)) := by
      cases act with
      | send | close => exact ⟨rfl, rfl, rfl, map_onLine Line.key w i fun _ => rfl⟩
      | ask | opened | release | note => exact ⟨rfl, rfl, rfl, rfl⟩
    have rest := ih (w.act (i, act))
    exact ⟨rest.cluster.trans first.cluster, rest.service.trans first.service,
      rest.now.trans first.now, rest.lines.trans first.lines⟩

theorem like_give (w : World σ) (input : Service.Input) :
    Like { w with service := (w.service.step input).1 } (w.give input) :=
  like_acts _ _

/-! ## While a world goes on

`give` leaves out the input `opened`: for an invariant that ties the service to the cluster, such as
`AsShared`, that input is only sound together with the cluster's own change, and has the field
`log`. -/

/-- The obligations of a predicate that is to be kept by all that a world does until it is settled.
    -/
structure Kept (P : World σ → Prop) : Prop where
  /-- `P` does not depend on the events and on what clients hold. -/
  frame {w w' : World σ} (h : P w) (cluster : w'.cluster = w.cluster) (state : w'.state = w.state)
    (service : w'.service = w.service) (now : w'.now = w.now)
    (lines : w'.lines.map Line.key = w.lines.map Line.key) : P w'
  give {w : World σ} (h : P w) (i : Nat) (input : Session.Input)
    (other : ∀ answer, input ≠ .opened answer) : P (w.give (.session i input))
  list {w : World σ} (h : P w) (ns : String) (selector : Labels) :
    P { w with state := (w.cluster.list w.state ns selector).2.2 }
  get {w : World σ} (h : P w) (ns pod : String) :
    P { w with state := (w.cluster.get w.state ns pod).2 }
  /-- A session that waits for a log is answered by the cluster, or breaks off. -/
  log {w : World σ} (h : P w) {i : Nat} {ns pod container : String} {tail : Option Int}
    {next : Except ClusterFailure OpenLog → Lookup OpenLog}
    (asks : w.service.sessions[i]?.map (·.stage) =
      some (.looking (.log ns pod container tail next))) :
    P (resume i (.opened (w.cluster.log w.state ns pod container tail).1) id
      { w with state := (w.cluster.log w.state ns pod container tail).2 })
  /-- An answer that takes time goes on its way. Such an answer exists only if the cluster has
      delays. -/
  expect {w : World σ} (h : P w) (slow : ∃ state question, w.cluster.delay state question ≠ some 0)
    (i : Nat) (ms : Option Nat) (events : List Event) (input : Session.Input) :
    P (w.expect i ms events input)
  /-- An answer that was on its way is given to its session. -/
  reached {w : World σ} (h : P w) {k : Nat} {l : Line} (here : w.lines[k]? = some l)
    {events : List Event} {input : Session.Input} (expected : l.expected = some (events, input)) :
    P (resume l.session input id
      { w with lines := w.lines.set k { l with wakes := none, expected := none } })

namespace Kept

variable {P : World σ → Prop}

/-- The conjunction of two predicates meets the obligations if both do. -/
theorem and {Q : World σ → Prop} (kept : Kept P) (kept' : Kept Q) : Kept fun w => P w ∧ Q w where
  frame h cluster state service now lines :=
    ⟨kept.frame h.1 cluster state service now lines, kept'.frame h.2 cluster state service now lines⟩
  give h i input other := ⟨kept.give h.1 i input other, kept'.give h.2 i input other⟩
  list h ns selector := ⟨kept.list h.1 ns selector, kept'.list h.2 ns selector⟩
  get h ns pod := ⟨kept.get h.1 ns pod, kept'.get h.2 ns pod⟩
  log h _ _ _ _ _ _ asks := ⟨kept.log h.1 asks, kept'.log h.2 asks⟩
  expect h slow i ms events input :=
    ⟨kept.expect h.1 slow i ms events input, kept'.expect h.2 slow i ms events input⟩
  reached h _ _ here _ _ expected :=
    ⟨kept.reached h.1 here expected, kept'.reached h.2 here expected⟩

/-- `resume` with a continuation, from `resume` without one: the continuation runs only where the
    session does not break off. -/
theorem resume {i : Nat} {input : Session.Input} {further : World σ → World σ}
    (h : P (World.resume i input id w)) (keeps : ∀ w, P w → P (further w)) :
    P (World.resume i input further w) := by
  unfold World.resume at h ⊢
  split
  next fatal =>
    rw [if_pos fatal] at h
    exact h
  next answered =>
    rw [if_neg answered] at h
    exact keeps _ h

theorem foldl {α : Type} {f : World σ → α → World σ} (keeps : ∀ w a, P w → P (f w a)) (h : P w)
    (as : List α) : P (as.foldl f w) := by
  induction as generalizing w with
  | nil => exact h
  | cons a as ih => exact ih (keeps w a h)

variable (kept : Kept P)

include kept

theorem onLine (h : P w) (i : Nat) {f : Line → Line} (keeps : ∀ l, (f l).key = l.key) :
    P (w.onLine i f) :=
  kept.frame h rfl rfl rfl rfl (map_onLine Line.key w i keeps)

theorem modify (h : P w) (k : Nat) {f : Line → Line} (keeps : ∀ l, (f l).key = l.key) :
    P { w with lines := w.lines.modify k f } :=
  kept.frame h rfl rfl rfl rfl (map_modify Line.key w.lines k keeps)

theorem set (h : P w) {k : Nat} {l l' : Line} (here : w.lines[k]? = some l)
    (same : l'.key = l.key) : P { w with lines := w.lines.set k l' } :=
  kept.frame h rfl rfl rfl rfl (map_set Line.key here same)

theorem resume_other (h : P w) (i : Nat) (input : Session.Input)
    (other : ∀ answer, input ≠ .opened answer) {further : World σ → World σ}
    (keeps : ∀ w, P w → P (further w)) : P (World.resume i input further w) := by
  unfold World.resume
  split
  · exact kept.onLine h i fun _ => rfl
  · exact keeps _ (kept.give h i input other)

/-- Each question of a session is one of `list`, `get` and `log`, and is answered now (`resume`) or
    later (`expect`). The induction is on the number of questions left. -/
theorem converse (h : P w) (i n : Nat) : P (World.converse i n w) := by
  induction n generalizing w with
  | zero => exact h
  | succ n ih =>
    unfold World.converse
    dsimp only
    split
    next ns selector next stage =>
      split
      · refine kept.resume_other ?_ i (.listed _) (fun _ => nofun) fun w h => ih h
        exact kept.frame (kept.list h ns selector) rfl rfl rfl rfl rfl
      next slow => exact kept.expect (kept.list h ns selector) ⟨_, _, slow⟩ ..
    next ns pod next stage =>
      split
      · exact kept.resume_other (kept.get h ns pod) i (.got _) (fun _ => nofun) fun w h => ih h
      next slow => exact kept.expect (kept.get h ns pod) ⟨_, _, slow⟩ ..
    next ns pod container tail next stage =>
      refine resume ?_ fun w h => ih h
      refine kept.log (kept.onLine h i (f := fun l => { l with feed := ?_ }) fun _ => rfl) stage
    next => exact h

theorem moved (h : P w) {k : Nat} {l l' : Line} {s : Session} {input : Option Session.Input}
    (here : w.lines[k]? = some l) (goes : move w s l = .go l' input) : P (w.moved k l' input) := by
  have own := own_move w s l
  rw [goes] at own
  have framed : P { w with lines := w.lines.set k l' } := kept.set h here own.1
  cases input with
  | none => exact framed
  | some input =>
    exact kept.give framed _ input fun answer same => own.2 answer (congrArg some same)

/-- A line goes on by moves, and each move is `Move.Own`. The induction is on the number of moves
    left. -/
theorem settleLine (h : P w) (n k : Nat) : P (World.settleLine n k w) := by
  induction n generalizing w with
  | zero => exact h
  | succ n ih =>
    unfold World.settleLine
    split
    next => exact h
    next l here =>
      split
      next => exact h
      next s found =>
        split
        next l' waits =>
          have own := own_move w s l
          rw [waits] at own
          exact kept.set h here own
        next l' input goes =>
          have moved := kept.moved h here goes
          cases input with
          | none => exact ih moved
          | some input => exact ih moved

/-- An answer arrives: the session converses further, its line goes on, and the client's signals
    that were put aside meanwhile are given to it. -/
theorem arrive (h : P w) (k : Nat) : P (World.arrive w k) := by
  unfold World.arrive
  split
  next name i feed t events input unread inbox closing here =>
    split
    · have noted : P { w with events := w.events ++ events } :=
        kept.frame h rfl rfl rfl rfl rfl
      have answered := resume (kept.reached noted here rfl) fun w h =>
        kept.converse h i questions
      dsimp only
      split
      · -- the line goes on, and then it is noticed what its client has done meanwhile
        refine foldl (P := P) (fun w signal h => kept.give h i (.client signal) fun _ => nofun) ?_ _
        refine kept.settleLine ?_ _ k
        exact kept.onLine answered i (f := fun l => { l with unread := [] }) fun _ => rfl
      · exact answered
    · exact h
  next => exact h

theorem settle (h : P w) : P (World.settle w) := by
  have arrived := foldl (P := P) (fun w k h => kept.arrive h k) h (List.range w.lines.length)
  exact foldl (P := P) (fun w k h => kept.settleLine h (patience w k) k) arrived _

theorem signal (h : P w) (k : Nat) (signal : Session.Signal) : P (w.signal k signal) := by
  unfold World.signal
  split
  · split
    · exact kept.modify h k fun _ => rfl
    · exact kept.settle (kept.give h _ (.client signal) fun _ => nofun)
  · exact h

theorem drop (h : P w) (k : Nat) : P (w.drop k) :=
  kept.signal (kept.modify h k (f := fun l => { l with name := none }) fun _ => rfl) k abandoned

end Kept

theorem now_resume {t i : Nat} {input : Session.Input} (h : w.now = t) :
    (resume i input id w).now = t := by
  unfold resume
  split
  · exact h
  · exact (like_give w (.session i input)).now.trans h

/-- Time does not pass inside a deed, as the first use of `Kept`. -/
theorem kept_now (t : Nat) : Kept fun w : World σ => w.now = t where
  frame h _ _ _ now _ := now.trans h
  give {w} h i input _ := (like_give w (.session i input)).now.trans h
  list h _ _ := h
  get h _ _ := h
  log h _ _ _ _ _ _ _ := now_resume h
  expect h _ _ _ _ _ := h
  reached h _ _ _ _ _ _ := now_resume h

theorem now_settle (w : World σ) : (settle w).now = w.now :=
  (kept_now w.now).settle rfl

/-! ## Time

`proceed` moves the clock to the next instant at which a line wakes and settles there, until the
limit. For an invariant of settled worlds it matters that no line wakes in between, which is
`nextWake_cases`. -/

/-- The fold in `nextWake` computes the least of a list of times, if there is one. -/
theorem foldl_least (ts : List Nat) (best : Option Nat) :
    match ts.foldl (fun best t => some (match best with | some b => min b t | none => t)) best with
    | none => best = none ∧ ts = []
    | some t => (best = some t ∨ t ∈ ts) ∧ (∀ b, best = some b → t ≤ b) ∧ ∀ u ∈ ts, t ≤ u := by
  induction ts generalizing best with
  | nil =>
    cases best with
    | none => exact ⟨rfl, rfl⟩
    | some b => simp
  | cons u ts ih =>
    have rest := ih (some (match best with | some b => min b u | none => u))
    rw [List.foldl_cons]
    split at rest
    next => simp at rest
    next t _ =>
      obtain ⟨from', below, least⟩ := rest
      have below := below _ rfl
      cases best with
      | none =>
        refine ⟨?_, by simp, ?_⟩
        · simpa [eq_comm] using from'
        · simpa using ⟨below, least⟩
      | some b =>
        simp only [Nat.le_min] at below
        refine ⟨?_, by simpa using below.1, by simpa using ⟨below.2, least⟩⟩
        simp only [Option.some.injEq, List.mem_cons] at from' ⊢
        rcases from' with same | mem
        · omega
        · exact Or.inr (Or.inr mem)

/-- Either no line wakes after now, or `nextWake` is an instant after now before which no line
    wakes. -/
theorem nextWake_cases (w : World σ) :
    (w.nextWake = none ∧ ∀ l ∈ w.lines, ∀ u, l.wakes = some u → ¬w.now < u) ∨
      ∃ t, w.nextWake = some t ∧ w.now < t ∧
        ∀ l ∈ w.lines, ∀ u, l.wakes = some u → w.now < u → t ≤ u := by
  have waking : ∀ l ∈ w.lines, ∀ u, l.wakes = some u → w.now < u →
      u ∈ (w.lines.filterMap (·.wakes)).filter (w.now < ·) := by
    intro l mem u wakes later
    simp only [List.mem_filter, List.mem_filterMap, decide_eq_true_eq]
    exact ⟨⟨l, mem, wakes⟩, later⟩
  have least := foldl_least ((w.lines.filterMap (·.wakes)).filter (w.now < ·)) none
  unfold nextWake
  split at least
  next eq =>
    refine Or.inl ⟨eq, ?_⟩
    intro l mem u wakes later
    have := waking l mem u wakes later
    simp [least.2] at this
  next t eq =>
    obtain ⟨from', -, least⟩ := least
    refine Or.inr ⟨t, eq, ?_, ?_⟩
    · have := from'.resolve_left (by simp)
      simpa using (List.mem_filter.mp this).2
    · intro l mem u wakes later
      exact least u (waking l mem u wakes later)

/-! ## Requests

`World.request` is taken apart into the steps that matter here, so that `Rests.request` need not
unfold it: the cluster is asked, time passes for the delay, events are noted, and either the world
is settled or a session begins (`begin`) and it is settled then. -/

/-- A session begins. Its client holds the socket under a name, and drops the one of line `before`.
    -/
def begin (w : World σ) (name : Option String) (t : Target) (before : Option Nat) : World σ :=
  let i := w.service.sessions.length
  let lines : List Line := w.lines ++ [⟨name, i, [], none, none, [], [], false⟩]
  let begun := converse i questions (give { w with lines } (.accept t))
  match before with
  | some k => begun.drop k
  | none => begun

/-- The worlds that a request can lead to. -/
theorem request_cases (w : World σ) (name : Option String) (r : Request) :
    let asked : World σ := { w with state :=
      (Handler.handle w.service.settings w.present w.cluster w.state r).2.2 }
    ∃ later events, (later = asked ∨ ∃ ms, later = asked.sleep ms) ∧
      ((w.request name r).2 = settle { later with events } ∨ ∃ t before crowded,
        (w.request name r).2 = settle { begin { later with events } name t before with crowded }) := by
  intro asked
  obtain ⟨verdict, events, state, handled⟩ : ∃ verdict events state,
      Handler.handle w.service.settings w.present w.cluster w.state r = (verdict, events, state) :=
    ⟨_, _, _, rfl⟩
  have same : asked = { w with state } := by simp only [asked, handled]
  rw [same]
  simp only [World.request, handled]
  generalize Option.getD (Option.bind (Option.bind (Route.of r).toOption _) _) 0 = delay
  generalize ({ w with state } : World σ) = asked
  -- without a delay no time passes
  have waits : (if delay = 0 then asked else asked.sleep delay) = asked ∨
      ∃ ms, (if delay = 0 then asked else asked.sleep delay) = asked.sleep ms := by
    split
    · exact Or.inl rfl
    · exact Or.inr ⟨delay, rfl⟩
  generalize (if delay = 0 then asked else asked.sleep delay) = later at waits ⊢
  refine ⟨later, later.events ++ events, waits, ?_⟩
  cases verdict with
  | answer | breakOff => exact Or.inl rfl
  | accept response t =>
    refine Or.inr ⟨t, name.bind (held? { later with events := later.events ++ events }), ?_⟩
    exact ⟨_, rfl⟩

/-! ## Whenever a world is settled

`Deed` lists what can be done to a `World` from outside, and `after` does it. So "after any list of
deeds" is `deeds.foldl after w`, which is the form of all statements about a service at work. -/

/-- Something that a client does, or whoever runs the service. -/
inductive Deed where
  | request (name : Option String) (r : Request)
  | connect (name : String) (r : Request)
  | send (k : Nat) (frame : Frame) (length : Nat)
  | receive (k ms : Nat)
  | drop (k : Nat)
  | sleep (ms : Nat)
  | look
  | shutdown

/-- The world after a deed. -/
def after (w : World σ) : Deed → World σ
  | .request name r => (w.request name r).2
  | .connect name r => (w.connect name r).2
  | .send k frame length => (w.send k frame length).2
  | .receive k ms => (w.receive k ms).2
  | .drop k => w.drop k
  | .sleep ms => w.sleep ms
  | .look => w.look.2
  | .shutdown => w.shutdown

/-- The obligations of a predicate `P` that is to hold inside a deed, and of a predicate `Q` that is
    to hold whenever the world is settled. -/
structure Rests (P Q : World σ → Prop) : Prop where
  kept : Kept P
  going {w : World σ} (h : Q w) : P w
  settle {w : World σ} (h : P w) : Q (settle w)
  /-- `Q` does not depend on the events and on what clients hold. -/
  frame {w w' : World σ} (h : Q w) (cluster : w'.cluster = w.cluster) (state : w'.state = w.state)
    (service : w'.service = w.service) (now : w'.now = w.now)
    (lines : w'.lines.map Line.wait = w.lines.map Line.wait) : Q w'
  /-- `Q` lasts while time passes, up to the next instant at which a line wakes. -/
  later {w : World σ} (h : Q w) (t : Nat)
    (early : ∀ l ∈ w.lines, ∀ u, l.wakes = some u → w.now < u → t < u) : Q { w with now := t }
  list {w : World σ} (h : Q w) (ns : String) (selector : Labels) :
    Q { w with state := (w.cluster.list w.state ns selector).2.2 }
  get {w : World σ} (h : Q w) (ns pod : String) :
    Q { w with state := (w.cluster.get w.state ns pod).2 }
  /-- `P` lasts while time passes to any instant. -/
  elapse {w : World σ} (h : P w) (t : Nat) : P { w with now := t }
  /-- A session begins, for which a line is there already. -/
  accept {w : World σ} (h : P w) {l : Line} (own : l.session = w.service.sessions.length)
    (idle : l.expected = none) (t : Target) :
    P (World.give { w with lines := w.lines ++ [l] } (.accept t))
  stop {w : World σ} (h : P w) : P (w.give .shutdown)

/-- A predicate that is `Kept`, and lasts as time passes, rests as it is. -/
theorem Kept.rests {P : World σ → Prop} (kept : Kept P)
    (elapse : ∀ {w : World σ}, P w → ∀ t, P { w with now := t })
    (accept : ∀ {w : World σ}, P w → ∀ {l : Line}, l.session = w.service.sessions.length →
      l.expected = none → ∀ t, P (World.give { w with lines := w.lines ++ [l] } (.accept t)))
    (stop : ∀ {w : World σ}, P w → P (w.give .shutdown)) : Rests P P where
  kept := kept
  going h := h
  settle h := kept.settle h
  frame h cluster state service now lines :=
    kept.frame h cluster state service now (keys_of_waits lines)
  later h t _ := elapse h t
  list := kept.list
  get := kept.get
  elapse := elapse
  accept := accept
  stop := stop

namespace Rests

variable {P Q : World σ → Prop} (rests : Rests P Q)

include rests

theorem modify (h : Q w) (k : Nat) {f : Line → Line} (keeps : ∀ l, (f l).wait = l.wait) :
    Q { w with lines := w.lines.modify k f } :=
  rests.frame h rfl rfl rfl rfl (map_modify Line.wait w.lines k keeps)

/-- Time goes on to a limit. Each turn moves the clock by a millisecond at least, so the turns
    suffice; their number carries the induction. -/
theorem proceed (h : Q w) (done : World σ → Bool) {limit n : Nat} (enough : limit - w.now < n) :
    Q (World.proceed done limit n w) := by
  induction n generalizing w with
  | zero => exact absurd enough (Nat.not_lt_zero _)
  | succ n ih =>
    unfold World.proceed
    split
    · exact h
    · -- nobody wakes any more, or somebody does within the limit or beyond it
      rcases nextWake_cases w with ⟨eq, none⟩ | ⟨t, eq, later, first⟩
      · rw [eq]
        exact rests.later h limit fun l mem u wakes later => absurd later (none l mem u wakes)
      · rw [eq]
        dsimp only
        split
        next inTime =>
          -- time has moved, so there is less of it left than turns
          have settled := rests.settle (rests.elapse (rests.going h) t)
          have now := now_settle { w with now := t }
          have less : limit - t < n := by omega
          exact ih settled (by rwa [now])
        next tooLate =>
          refine rests.later h limit fun l mem u wakes later => ?_
          exact Nat.lt_of_lt_of_le (Nat.lt_of_not_le tooLate) (first l mem u wakes later)

theorem waitUntil (h : Q w) (done : World σ → Bool) (limit : Nat) :
    Q (w.waitUntil done limit) :=
  rests.proceed h done (Nat.lt_succ_self _)

theorem sleep (h : Q w) (ms : Nat) : Q (w.sleep ms) :=
  rests.waitUntil h ..

theorem signal (h : Q w) (k : Nat) (signal : Session.Signal) : Q (w.signal k signal) := by
  unfold World.signal
  split
  · split
    · exact rests.modify h k fun _ => rfl
    · exact rests.settle (rests.kept.give (rests.going h) _ (.client signal) fun _ => nofun)
  · exact h

theorem drop (h : Q w) (k : Nat) : Q (w.drop k) :=
  rests.signal (rests.modify h k (f := fun l => { l with name := none }) fun _ => rfl) k abandoned

theorem shutdown (h : Q w) : Q w.shutdown :=
  rests.settle (rests.stop (rests.going h))

theorem send (h : Q w) (k : Nat) (frame : Frame) (length : Nat) :
    Q (w.send k frame length).2 := by
  unfold World.send
  split
  · exact h
  · split
    · exact h
    · refine rests.signal ?_ k (frame.signal length)
      exact rests.modify h k fun _ => rfl

theorem receive (h : Q w) (k ms : Nat) : Q (w.receive k ms).2 := by
  unfold World.receive
  have waited := rests.waitUntil h (fun w => !((w.lines[k]?.map (·.inbox)).getD []).isEmpty)
    (w.now + ms)
  dsimp only
  split
  · exact waited
  · exact rests.modify waited k fun _ => rfl

theorem begin (h : P w) (name : Option String) (t : Target) (before : Option Nat) :
    P (w.begin name t before) := by
  have accepted := rests.accept h
    (l := ⟨name, w.service.sessions.length, [], none, none, [], [], false⟩) rfl rfl t
  have begun := rests.kept.converse accepted w.service.sessions.length questions
  unfold World.begin
  cases before with
  | some k => exact rests.kept.drop begun k
  | none => exact begun

/-- A request, along `request_cases`. Only the beginning of a session leaves `Q` for `P`, and the
    world is settled right behind it. -/
theorem request (h : Q w) (name : Option String) (r : Request) : Q (w.request name r).2 := by
  obtain ⟨later, events, waits, cases⟩ := request_cases w name r
  -- the one question that the cluster may be asked is a `get` or a `list`
  have asked : Q { w with state :=
      (Handler.handle w.service.settings w.present w.cluster w.state r).2.2 } := by
    rcases Handler.state_handle w.service.settings w.present w.cluster w.state r with
      same | ⟨ns, pod, got⟩ | ⟨ns, selector, listed⟩
    · rw [same]
      exact h
    · rw [got]
      exact rests.get h ns pod
    · rw [listed]
      exact rests.list h ns selector
  have waited : Q later := by
    rcases waits with rfl | ⟨ms, rfl⟩
    · exact asked
    · exact rests.sleep asked ms
  have noted : Q { later with events } := rests.frame waited rfl rfl rfl rfl rfl
  rcases cases with eq | ⟨t, before, crowded, eq⟩
  · rw [eq]
    exact rests.settle (rests.going noted)
  · have begun := rests.begin (rests.going noted) name t before
    rw [eq]
    exact rests.settle (rests.kept.frame begun rfl rfl rfl rfl rfl)

theorem connect (h : Q w) (name : String) (r : Request) : Q (w.connect name r).2 := by
  unfold World.connect
  dsimp only
  split
  · exact h
  · exact rests.request h ..

/-- **Whatever is done** to a settled world keeps `Q`: the step lemma of the service at work. -/
theorem after (h : Q w) (deed : Deed) : Q (w.after deed) := by
  cases deed with
  | request name r => exact rests.request h name r
  | connect name r => exact rests.connect h name r
  | send k frame length => exact rests.send h k frame length
  | receive k ms => exact rests.receive h k ms
  | drop k => exact rests.drop h k
  | sleep ms => exact rests.sleep h ms
  | look => exact rests.frame h rfl rfl rfl rfl rfl
  | shutdown => exact rests.shutdown h

/-- The run lemma, by induction on the deeds. -/
theorem run (h : Q w) (deeds : List Deed) : Q (deeds.foldl World.after w) := by
  induction deeds generalizing w with
  | nil => exact h
  | cons deed deeds ih => exact ih (rests.after h deed)

end Rests

end World

end PodTail
