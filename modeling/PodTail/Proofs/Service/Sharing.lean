import PodTail.Cluster.Memory
import PodTail.Proofs.Session.Lease
import PodTail.Service.Basic

/-!
# Sessions that share a cluster

Two layers of many sessions, and what the theory of one session gives for them.

`Service.run` lets the sessions take inputs in any order. Each input goes to one session, with the
shutdown token, so every session of a service has a history of its own: `Service.Histories` says
that its state and its acts are those of a `Session.History`, and `Histories.step` keeps this.
Through it the invariants of `PodTail.Proofs.Session` hold of each session of a service. `Turn` is
the case analysis that all proofs about `Service.step` share: what a step is for the session at a
given place.

`Shared` adds the cluster that the sessions look their targets up in. `Shared.step` answers a
question for a log from the cluster, and tells the cluster of every log that is released; all other
inputs of a session may be anything at any time. `Shared.run` is a list of such happenings.

The result is `no_log_leaks`. For the sessions it follows from `Session.Tidy` and from a count over
all of them (`Balanced`: opened logs are released or held). For a cluster in memory, which counts
for itself, it follows from `Counted`: its counters are those of the acts.
-/

set_option autoImplicit false

namespace PodTail

open Session (History Act openings releases)

namespace Service

/-! ## One session among others

The acts of a service carry the number of the session that did them, and `actsOf i` picks those of
one session. What a step adds is that session's own acts (`actsOf_own`) or nothing (`actsOf_other`).
-/

/-- What one session has done, of what has been done by all. -/
def actsOf (i : Nat) (acts : List (Nat × Act)) : List Act :=
  (acts.filter (·.1 = i)).map (·.2)

theorem actsOf_append (i : Nat) (acts more : List (Nat × Act)) :
    actsOf i (acts ++ more) = actsOf i acts ++ actsOf i more := by
  simp [actsOf]

theorem actsOf_own (i : Nat) (acts : List Act) : actsOf i (acts.map (i, ·)) = acts := by
  simp [actsOf, List.filter_map, Function.comp_def]

theorem actsOf_others {i : Nat} {acts : List (Nat × Act)} (h : ∀ a ∈ acts, a.1 ≠ i) :
    actsOf i acts = [] := by
  rw [actsOf, List.filter_eq_nil_iff.mpr fun a mem => by simpa using h a mem]
  rfl

theorem actsOf_other {i j : Nat} (other : j ≠ i) (acts : List Act) :
    actsOf i (acts.map (j, ·)) = [] := by
  refine actsOf_others fun a mem => ?_
  obtain ⟨act, _, rfl⟩ := List.mem_map.mp mem
  exact other

variable {s : Service} {acts : List (Nat × Act)} {input : Input}

theorem mem_actsOf {i : Nat} {a : Act} : a ∈ actsOf i acts ↔ (i, a) ∈ acts := by
  simp [actsOf]

/-- What a step is for the session that stands at `i` behind it, and the acts that are this
    session's. -/
inductive Turn (s : Service) (input : Input) (i : Nat) (session : Session) : List Act → Prop where
  | idle (same : s.sessions[i]? = some session) : Turn s input i session []
  | begins {t : Target} (here : i = s.sessions.length) (eq : input = .accept t)
      (began : session = (Session.start s.settings.cappLabel s.settings.tailLines s.shutdown t).1) :
      Turn s input i session (Session.start s.settings.cappLabel s.settings.tailLines s.shutdown t).2
  | takes {before : Session} {own : Session.Input} (here : s.sessions[i]? = some before)
      (eq : input = .session i own) (took : session = (before.step s.shutdown own).1) :
      Turn s input i session (before.step s.shutdown own).2

/-- Every step is a `Turn` for the session at `i`: it begins with the step, takes the input, or is
    not touched. -/
theorem turn {i : Nat} {session : Session}
    (found : (s.step input).1.sessions[i]? = some session) :
    Turn s input i session (actsOf i (s.step input).2) := by
  cases input with
  | shutdown => exact .idle found
  | accept t =>
    simp only [step] at found ⊢
    -- The new session stands behind all others, at the length of the list so far.
    rcases Nat.lt_trichotomy i s.sessions.length with old | rfl | beyond
    · rw [List.getElem?_append_left old] at found
      rw [actsOf_other (Nat.ne_of_gt old)]
      exact .idle found
    · rw [List.getElem?_concat_length] at found
      rw [actsOf_own]
      exact .begins rfl rfl (Option.some.inj found).symm
    · rw [List.getElem?_eq_none (by simpa using Nat.succ_le_of_lt beyond)] at found
      cases found
  | session j own =>
    cases here : s.sessions[j]? with
    | none =>
      simp only [step, here] at found ⊢
      exact .idle found
    | some before =>
      have small : j < s.sessions.length := (List.getElem?_eq_some_iff.mp here).1
      simp only [step, here] at found ⊢
      by_cases same : j = i
      · subst same
        rw [List.getElem?_set_self small] at found
        rw [actsOf_own]
        exact .takes here rfl (Option.some.inj found).symm
      · rw [List.getElem?_set_ne same] at found
        rw [actsOf_other same]
        exact .idle found

/-- How many sessions have begun behind an input. -/
def Input.begun (n : Nat) : Input → Nat
  | .accept _ => n + 1
  | _ => n

theorem length_step (s : Service) (input : Input) :
    (s.step input).1.sessions.length = input.begun s.sessions.length := by
  cases input with
  | accept t => simp [step, Input.begun]
  | shutdown => rfl
  | session i own =>
    simp only [step, Input.begun]
    split <;> simp

theorem length_le_step (s : Service) (input : Input) :
    s.sessions.length ≤ (s.step input).1.sessions.length := by
  rw [length_step]
  cases input with
  | accept t => exact Nat.le_succ _
  | session i own => exact Nat.le_refl _
  | shutdown => exact Nat.le_refl _

theorem lt_of_mem_step {a : Nat × Act} (mem : a ∈ (s.step input).2) :
    a.1 < (s.step input).1.sessions.length := by
  cases input with
  | shutdown => simp [step] at mem
  | accept t =>
    obtain ⟨act, _, rfl⟩ := List.mem_map.mp mem
    simp [step]
  | session i own =>
    cases here : s.sessions[i]? with
    | none => simp [step, here] at mem
    | some before =>
      simp only [step, here] at mem ⊢
      obtain ⟨act, _, rfl⟩ := List.mem_map.mp mem
      rw [List.length_set]
      exact (List.getElem?_eq_some_iff.mp here).1

/-- Each session has had a history of its own, and the acts that are told are those of sessions. -/
structure Histories (s : Service) (acts : List (Nat × Act)) : Prop where
  known : ∀ a ∈ acts, a.1 < s.sessions.length
  each : ∀ i session, s.sessions[i]? = some session → ∃ t first inputs,
    (History.after s.settings.cappLabel s.settings.tailLines t first inputs).session = session ∧
    (History.after s.settings.cappLabel s.settings.tailLines t first inputs).acts = actsOf i acts

theorem Histories.start (settings : Settings) : Histories (Service.start settings) [] where
  known := by simp
  each i session found := by simp [Service.start] at found

theorem step_settings (s : Service) (input : Input) : (s.step input).1.settings = s.settings := by
  cases input with
  | accept t => rfl
  | session i input =>
    simp only [step]
    split <;> rfl
  | shutdown => rfl

/-- A step keeps `Histories`: a session that takes an input has its history longer by that input, a
    new one has the history that begins, and the others keep theirs. -/
theorem Histories.step (histories : Histories s acts) (input : Input) :
    Histories (s.step input).1 (acts ++ (s.step input).2) := by
  obtain ⟨known, each⟩ := histories
  refine ⟨fun a mem => ?_, fun i session found => ?_⟩
  · rcases List.mem_append.mp mem with mem | mem
    · exact Nat.lt_of_lt_of_le (known a mem) (length_le_step s input)
    · exact lt_of_mem_step mem
  · rw [step_settings, actsOf_append]
    have turn := turn found
    generalize actsOf i (s.step input).2 = done at turn ⊢
    cases turn with
    | idle same =>
      rw [List.append_nil]
      exact each i session same
    | @begins t here _ began =>
      -- by `known` no act so far has the number of the new session
      have silent : actsOf i acts = [] := by
        refine actsOf_others fun a mem => ?_
        exact Nat.ne_of_lt (here ▸ known a mem)
      rw [silent, List.nil_append]
      exact ⟨t, s.shutdown, [], began.symm, rfl⟩
    | @takes before own here _ took =>
      obtain ⟨t, first, inputs, eq, did⟩ := each i before here
      refine ⟨t, first, inputs ++ [(s.shutdown, own)], ?_, ?_⟩
      · rw [History.after_concat, took, ← eq]
        rfl
      · rw [History.after_concat, ← did, ← eq]
        rfl

theorem Histories.tidy (histories : Histories s acts) {i : Nat} {session : Session}
    (found : s.sessions[i]? = some session) : Session.Tidy session.stage (actsOf i acts) := by
  obtain ⟨t, first, inputs, rfl, did⟩ := histories.each i session found
  rw [← did]
  exact History.tidy_after ..

theorem Histories.opensLast (histories : Histories s acts) {i : Nat} {session : Session}
    (found : s.sessions[i]? = some session) (d : Lookup OpenLog) (stage : session.stage = .looking d) :
    d.OpensLast := by
  obtain ⟨t, first, inputs, rfl, _⟩ := histories.each i session found
  exact (Session.History.stands_after _ _ t first inputs).2.opensLast d stage

/-- `Session.step_change` for a session of a service: its look-up opens a log last, since its
    history began with `Lookup.openTarget`. -/
theorem Histories.change (histories : Histories s acts) {i : Nat} {session : Session}
    (found : s.sessions[i]? = some session) (own : Session.Input) :
    Session.Change s.shutdown session own (session.step s.shutdown own).1
      (session.step s.shutdown own).2 :=
  Session.step_change (histories.opensLast found) s.shutdown own

/-! ## Runs

The induction over `Service.run`, with all acts so far as a parameter, since most invariants relate
the sessions to them. -/

/-- What is kept by the steps on these inputs is kept by the run of them. -/
theorem run_keeps_of {P : Service → List (Nat × Act) → Prop} (inputs : List Input)
    (keeps : ∀ s acts, ∀ input ∈ inputs, P s acts → P (s.step input).1 (acts ++ (s.step input).2))
    (acts : List (Nat × Act)) (holds : P s acts) :
    P (s.run inputs).1 (acts ++ (s.run inputs).2) := by
  induction inputs generalizing s acts with
  | nil => simpa [run] using holds
  | cons input inputs ih =>
    obtain ⟨first, rest⟩ : (∀ s acts, P s acts → P (s.step input).1 (acts ++ (s.step input).2)) ∧
        ∀ s acts, ∀ input ∈ inputs, P s acts → P (s.step input).1 (acts ++ (s.step input).2) :=
      ⟨fun s acts => keeps s acts input List.mem_cons_self,
        fun s acts other mem => keeps s acts other (List.mem_cons_of_mem _ mem)⟩
    have next := ih rest _ (first s acts holds)
    rwa [List.append_assoc] at next

/-- What is kept by every step is kept by every run. -/
theorem run_keeps {P : Service → List (Nat × Act) → Prop}
    (keeps : ∀ s acts input, P s acts → P (s.step input).1 (acts ++ (s.step input).2))
    (inputs : List Input) (acts : List (Nat × Act)) (holds : P s acts) :
    P (s.run inputs).1 (acts ++ (s.run inputs).2) :=
  run_keeps_of inputs (fun s acts input _ => keeps s acts input) acts holds

theorem run_append (s : Service) (inputs more : List Input) :
    s.run (inputs ++ more) =
      (((s.run inputs).1.run more).1, (s.run inputs).2 ++ ((s.run inputs).1.run more).2) := by
  induction inputs generalizing s with
  | nil => simp [run]
  | cons input inputs ih => simp [run, ih]

theorem histories_run (settings : Settings) (inputs : List Input) :
    Histories ((start settings).run inputs).1 ((start settings).run inputs).2 :=
  run_keeps (fun _ _ input histories => histories.step input) inputs [] (Histories.start settings)

/-! ## Counting logs

`held` counts the sessions that hold a log, `opened` and `released` the acts of all sessions.
`Tidy.balance` says for one session that what is opened is released or held, and `Balanced` says it
of the sums. A step changes one session only, so the sums change by what `held_concat` and
`held_set` say. -/

/-- How many sessions hold a log. -/
def held (s : Service) : Nat :=
  s.sessions.countP (·.stage.holds)

/-- Whether a session is over. -/
def isOver (session : Session) : Bool :=
  match session.stage with
  | .over => true
  | _ => false

/-- How many sessions are not over. -/
def live (s : Service) : Nat :=
  s.sessions.countP fun session => !isOver session

theorem held_le_live (s : Service) : s.held ≤ s.live := by
  refine List.countP_mono_left fun session _ holds => ?_
  unfold isOver
  split
  next stage =>
    rw [stage] at holds
    cases holds
  next => rfl

/-- How many logs all sessions have opened. -/
def opened (acts : List (Nat × Act)) : Nat :=
  openings (acts.map (·.2))

/-- How many logs all sessions have let go. -/
def released (acts : List (Nat × Act)) : Nat :=
  releases (acts.map (·.2))

theorem opened_append (acts more : List (Nat × Act)) :
    opened (acts ++ more) = opened acts + opened more := by
  simp [opened]

theorem released_append (acts more : List (Nat × Act)) :
    released (acts ++ more) = released acts + released more := by
  simp [released]

theorem opened_own (i : Nat) (acts : List Act) : opened (acts.map (i, ·)) = openings acts := by
  simp [opened, Function.comp_def]

theorem released_own (i : Nat) (acts : List Act) : released (acts.map (i, ·)) = releases acts := by
  simp [released, Function.comp_def]

/-- What is opened and not let go is held by a session. -/
def Balanced (s : Service) (acts : List (Nat × Act)) : Prop :=
  opened acts = released acts + s.held

theorem Balanced.start (settings : Settings) : Balanced (Service.start settings) [] :=
  rfl

theorem held_concat (sessions : List Session) (session : Session) :
    (sessions ++ [session]).countP (·.stage.holds) =
      sessions.countP (·.stage.holds) + if session.stage.holds then 1 else 0 := by
  rw [List.countP_append, List.countP_singleton]

theorem held_set {sessions : List Session} {i : Nat} {before : Session} (after : Session)
    (here : sessions[i]? = some before) :
    (sessions.set i after).countP (·.stage.holds) + (if before.stage.holds then 1 else 0) =
      sessions.countP (·.stage.holds) + if after.stage.holds then 1 else 0 := by
  obtain ⟨small, rfl⟩ := List.getElem?_eq_some_iff.mp here
  -- `countP_set` subtracts, so it is needed that a session which holds a log has been counted.
  rw [List.countP_set small]
  by_cases holds : (sessions[i].stage.holds = true)
  · have counted : 0 < sessions.countP (·.stage.holds) :=
      List.countP_pos_iff.mpr ⟨_, List.getElem_mem small, holds⟩
    rw [if_pos holds]
    omega
  · rw [if_neg holds]
    omega

theorem Balanced.accept (balanced : Balanced s acts) (histories : Histories s acts) (t : Target) :
    Balanced (s.step (.accept t)).1 (acts ++ (s.step (.accept t)).2) := by
  have after := histories.step (.accept t)
  unfold Balanced at balanced ⊢
  rw [opened_append, released_append, balanced]
  have found : (s.step (.accept t)).1.sessions[s.sessions.length]? =
      some (Session.start s.settings.cappLabel s.settings.tailLines s.shutdown t).1 :=
    List.getElem?_concat_length
  -- The balance of the new session is that of its own acts, for it has none before.
  have new := (after.tidy found).balance
  have silent : actsOf s.sessions.length acts = [] :=
    actsOf_others fun a mem => Nat.ne_of_lt (histories.known a mem)
  have counted := held_concat s.sessions
    (Session.start s.settings.cappLabel s.settings.tailLines s.shutdown t).1
  simp only [Service.step, actsOf_append, silent, actsOf_own, List.nil_append] at new ⊢
  rw [opened_own, released_own, new]
  simp only [held, counted]
  omega

/-- A step of one session. Its balance before and after the step gives what the step adds on both
    sides of the equation, and no other session counts differently. -/
theorem Balanced.session (balanced : Balanced s acts) (histories : Histories s acts) (i : Nat)
    (input : Session.Input) :
    Balanced (s.step (.session i input)).1 (acts ++ (s.step (.session i input)).2) := by
  have after := histories.step (.session i input)
  unfold Balanced at balanced ⊢
  rw [opened_append, released_append, balanced]
  cases here : s.sessions[i]? with
  | none =>
    simp only [Service.step, here]
    rfl
  | some session =>
    have small := (List.getElem?_eq_some_iff.mp here).1
    have old := (histories.tidy here).balance
    have found : (s.step (.session i input)).1.sessions[i]? =
        some (session.step s.shutdown input).1 := by
      simp only [Service.step, here]
      exact List.getElem?_set_self small
    have new := (after.tidy found).balance
    have counted := held_set (session.step s.shutdown input).1 here
    simp only [Service.step, here, actsOf_append, actsOf_own, Session.openings_append,
      Session.releases_append] at new ⊢
    rw [opened_own, released_own]
    simp only [held]
    omega

theorem Balanced.step (balanced : Balanced s acts) (histories : Histories s acts) (input : Input) :
    Balanced (s.step input).1 (acts ++ (s.step input).2) := by
  cases input with
  | accept t => exact balanced.accept histories t
  | session i input => exact balanced.session histories i input
  | shutdown =>
    simp only [Service.step, List.append_nil]
    exact balanced

/-- What a step of a session adds to `opened`, by `Change.openings`: the log of an answer that gives
    one, if the session waits for it. -/
theorem Histories.openings (histories : Histories s acts) {i : Nat} {session : Session}
    (found : s.sessions[i]? = some session) (input : Session.Input) :
    opened (s.step (.session i input)).2 =
      if (session.hears input).isSome then openings input.opening else 0 := by
  simp only [Service.step, found, opened_own]
  exact (histories.change found input).openings

end Service

/-! ## A service and its cluster

`Shared.give` is a step of the service together with the releases it makes, and `step_cases` says
that a happening is one `give` or nothing. -/

/-- A service, what its cluster has come to, and what its sessions have done. -/
structure Shared (σ : Type) where
  service : Service
  state : σ
  acts : List (Nat × Act)

namespace Shared

open Service (opened released actsOf Histories Balanced)

variable {σ : Type}

/-- What may happen next. -/
inductive Happening where
  /-- A request is accepted. -/
  | accepted (t : Target)
  /-- The cluster answers a session that asks for a log. -/
  | asked (i : Nat)
  /-- Anything else comes to a session. Nobody but the cluster answers a question for a log. -/
  | comes (i : Nat) (input : Session.Input) (other : ∀ answer, input ≠ .opened answer)
  | stopped

/-- A service without sessions. -/
def start (settings : Settings) (state : σ) : Shared σ :=
  ⟨Service.start settings, state, []⟩

/-- What the acts of sessions make of the cluster: it is told of the logs that are let go. -/
def perform (c : Cluster σ) (state : σ) (acts : List (Nat × Act)) : σ :=
  acts.foldl
    (fun state a => match a.2 with | .release source => c.release state source | _ => state) state

/-- Gives the service an input, and does what its sessions do then. -/
def give (c : Cluster σ) (w : Shared σ) (input : Service.Input) : Shared σ :=
  let (service, acts) := w.service.step input
  ⟨service, perform c w.state acts, w.acts ++ acts⟩

/-- One thing happens. -/
def step (c : Cluster σ) (w : Shared σ) : Happening → Shared σ
  | .accepted t => w.give c (.accept t)
  | .asked i =>
    let stage : Option Session.Stage := w.service.sessions[i]?.map (·.stage)
    match stage with
    | some (.looking (.log ns pod container tail _)) =>
      let (answer, state) := c.log w.state ns pod container tail
      { w with state }.give c (.session i (.opened answer))
    | _ => w
  | .comes i input _ => w.give c (.session i input)
  | .stopped => w.give c .shutdown

/-- One thing happens after the other. -/
def run (c : Cluster σ) (w : Shared σ) (happenings : List Happening) : Shared σ :=
  happenings.foldl (step c) w

/-- A step gives the service one input, if any. -/
theorem step_cases (c : Cluster σ) (w : Shared σ) (h : Happening) :
    step c w h = w ∨ ∃ state input, step c w h = { w with state }.give c input := by
  cases h with
  | accepted t => exact Or.inr ⟨w.state, .accept t, rfl⟩
  | stopped => exact Or.inr ⟨w.state, .shutdown, rfl⟩
  | asked i =>
    simp only [step]
    split
    · exact Or.inr ⟨_, _, rfl⟩
    · exact Or.inl rfl
  | comes i input other => exact Or.inr ⟨w.state, .session i input, rfl⟩

/-- The invariant of a service that shares a cluster, whatever the cluster does. -/
structure Sound (w : Shared σ) : Prop where
  histories : Histories w.service w.acts
  balanced : Balanced w.service w.acts

theorem Sound.step {w : Shared σ} (sound : w.Sound) (c : Cluster σ) (h : Happening) :
    (w.step c h).Sound := by
  rcases step_cases c w h with eq | ⟨state, input, eq⟩
  · rwa [eq]
  · rw [eq]
    exact ⟨sound.histories.step input, sound.balanced.step sound.histories input⟩

/-- What every step keeps, a run keeps. -/
theorem run_keeps {c : Cluster σ} {P : Shared σ → Prop} (keeps : ∀ w h, P w → P (w.step c h))
    {w : Shared σ} (holds : P w) (happenings : List Happening) : P (run c w happenings) := by
  induction happenings generalizing w with
  | nil => exact holds
  | cons h happenings ih => exact ih (keeps w h holds)

theorem Sound.start (settings : Settings) (state : σ) : (Shared.start settings state).Sound :=
  ⟨Histories.start settings, Balanced.start settings⟩

theorem sound_run (c : Cluster σ) (settings : Settings) (state : σ) (happenings : List Happening) :
    (run c (start settings state) happenings).Sound :=
  run_keeps (fun _ h sound => sound.step c h) (Sound.start settings state) happenings

theorem Sound.bounds {w : Shared σ} (sound : w.Sound) :
    released w.acts ≤ opened w.acts ∧ opened w.acts ≤ released w.acts + w.service.live := by
  have balanced : opened w.acts = released w.acts + w.service.held := sound.balanced
  have := w.service.held_le_live
  omega

/-! ## The counts of a cluster in memory

`Memory.log` counts a log as opened if it gives one, and `Shared.perform` has each release counted
as closed. That the first agrees with the sessions needs `Histories.openings`: the session to which
the answer goes hears it, as it asked for it. -/

theorem perform_memory (m : Memory) (acts : List (Nat × Act)) :
    perform Memory.cluster m acts = { m with closed := m.closed + released acts } := by
  induction acts generalizing m with
  | nil => rfl
  | cons a acts ih =>
    obtain ⟨i, act⟩ := a
    -- `closed` is raised by the first act and then by the rest, so its share must stand in front.
    have more : ∀ n, released ((i, act) :: acts) = n + released acts ↔
        (if act.isRelease then 1 else 0) = n := by
      intro n
      simp only [released, List.map_cons, Session.releases_cons]
      omega
    cases act with
    | release source =>
      rw [(more 1).mpr rfl, ← Nat.add_assoc]
      exact ih _
    | ask | opened | send | close | note =>
      rw [(more 0).mpr rfl, Nat.zero_add]
      exact ih m

/-- The cluster counts what its sessions do. -/
structure Counted (w : Shared Memory) : Prop where
  opened : w.state.opened = Service.opened w.acts
  closed : w.state.closed = released w.acts

theorem Counted.give {w : Shared Memory} (counted : w.Counted) (m : Memory) (input : Service.Input)
    (closed : m.closed = w.state.closed)
    (opened : m.opened = w.state.opened + Service.opened (w.service.step input).2) :
    ({ w with state := m }.give Memory.cluster input).Counted := by
  refine ⟨?_, ?_⟩
  · simp only [Shared.give, perform_memory, Service.opened_append, ← counted.opened]
    exact opened
  · simp only [Shared.give, perform_memory, Service.released_append, ← counted.closed, closed]

theorem log_memory (m : Memory) (ns pod container : String) (tail : Option Int) :
    (m.log ns pod container tail).2.closed = m.closed ∧
      (m.log ns pod container tail).2.opened = m.opened +
        openings (Session.Input.opened (m.log ns pod container tail).1).opening := by
  unfold Memory.log
  cases m.get ns pod <;> simp [Session.Input.opening, Act.isOpening]

/-- A happening keeps the counters in step with the acts. Only `asked` opens a log, since `comes`
    brings no answer to a question for one. -/
theorem Counted.step {w : Shared Memory} (counted : w.Counted) (histories : Histories w.service w.acts)
    (h : Happening) : (w.step Memory.cluster h).Counted := by
  cases h with
  | accepted t =>
    refine counted.give w.state (.accept t) rfl ?_
    simp only [Service.step, Service.opened_own, Session.openings_start, Nat.add_zero]
  | stopped => exact counted.give w.state .shutdown rfl rfl
  | comes i input other =>
    refine counted.give w.state (.session i input) rfl ?_
    cases found : w.service.sessions[i]? with
    | none =>
      simp only [Service.step, found]
      rfl
    | some session =>
      rw [histories.openings found, Session.Input.opening_eq_nil fun source => other (.ok source)]
      simp
  | asked i =>
    simp only [Shared.step]
    split
    next ns pod container tail next stage =>
      -- The session has asked for this log, so it hears the answer.
      obtain ⟨session, found, looking⟩ := Option.map_eq_some_iff.mp stage
      obtain ⟨closed, opened⟩ := log_memory w.state ns pod container tail
      refine counted.give _ _ closed ?_
      rw [histories.openings found, if_pos (by simp [Session.hears, looking, Lookup.heard?])]
      exact opened
    next => exact counted

theorem counted_run (settings : Settings) (m : Memory) (happenings : List Happening) :
    (run Memory.cluster (start settings { m with opened := 0, closed := 0 }) happenings).Counted := by
  have both := run_keeps (c := Memory.cluster) (P := fun w => w.Sound ∧ w.Counted)
    (fun _ h ⟨sound, counted⟩ => ⟨sound.step Memory.cluster h, counted.step sound.histories h⟩)
    ⟨Sound.start settings { m with opened := 0, closed := 0 }, ⟨rfl, rfl⟩⟩ happenings
  exact both.2

/-- **No log is leaked, and none is released twice.** After any happenings in any order each session
    is `Tidy`, and the number of logs opened lies between the number released and that number plus
    the sessions that are not over. The counters of a cluster in memory, `opened` and `closed`, are
    these two numbers. -/
theorem no_log_leaks {σ : Type} (c : Cluster σ) (state : σ) (m : Memory) (settings : Settings)
    (happenings : List Happening) :
    (let w := run c (start settings state) happenings
     released w.acts ≤ opened w.acts ∧ opened w.acts ≤ released w.acts + w.service.live ∧
        ∀ i session, w.service.sessions[i]? = some session →
          Session.Tidy session.stage (actsOf i w.acts)) ∧
    (let w := run Memory.cluster (start settings { m with opened := 0, closed := 0 }) happenings
     w.state.opened = opened w.acts ∧ w.state.closed = released w.acts ∧
        w.state.closed ≤ w.state.opened ∧ w.state.opened ≤ w.state.closed + w.service.live) := by
  refine ⟨?_, ?_⟩
  · have sound := sound_run c settings state happenings
    exact ⟨sound.bounds.1, sound.bounds.2, fun i session found => sound.histories.tidy found⟩
  · have sound := sound_run Memory.cluster settings { m with opened := 0, closed := 0 } happenings
    have counted := counted_run settings m happenings
    refine ⟨counted.opened, counted.closed, ?_⟩
    rw [counted.opened, counted.closed]
    exact sound.bounds

end Shared

end PodTail
