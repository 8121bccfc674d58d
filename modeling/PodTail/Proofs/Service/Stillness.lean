import PodTail.Proofs.Service.Waiting

/-!
# A service that has come to rest

`World.settle` lets every line go on for as many moves as its `patience` allows. That this is
enough, and that settling twice is settling once, has to be proved, and is what the theorem about
messages rests on.

`Quiet` is the invariant of settled worlds: every line is `Still`. It holds behind `settle`
(`quiet_settle`, from `settleLine_still` for each line in turn, where `Still.elsewhere` says that
the lines that are done stay so), and `settle` does nothing to a `Quiet` world
(`Quiet.settle_same`). `Quiet.rests` is the instance of `Rests`, so a world is `Quiet` after any
deeds.

A client's message changes no session (`Service.step_message`). Behind it the world is settled, but
a `Quiet` world was settled before. So a message changes nothing at all (`Quiet.message`), and
messages can be left out of any list of deeds: `undisturbed_at_work`.
-/

set_option autoImplicit false

namespace PodTail

/-- Steps of a fold that change nothing, as long as an invariant `P` holds, can be filtered out of
    it. -/
theorem foldl_but_idle {α β : Type} {f : β → α → β} {p : α → Bool} {P : β → Prop}
    (keeps : ∀ b a, P b → P (f b a)) (idle : ∀ b a, P b → p a = false → f b a = b) {b : β}
    (holds : P b) (as : List α) : (as.filter p).foldl f b = as.foldl f b := by
  induction as generalizing b with
  | nil => rfl
  | cons a as ih =>
    cases counts : p a with
    | true =>
      rw [List.filter_cons_of_pos counts, List.foldl_cons, List.foldl_cons]
      exact ih (keeps b a holds)
    | false =>
      rw [List.filter_cons_of_neg (by simp [counts]), List.foldl_cons, idle b a holds counts]
      exact ih holds

/-- A message changes nothing of a service, and nothing is done for it. -/
theorem Service.step_message (s : Service) (i : Nat) :
    s.step (.session i (.client .message)) = (s, []) := by
  cases found : s.sessions[i]? with
  | none => simp only [step, found]
  | some session =>
    obtain ⟨small, rfl⟩ := List.getElem?_eq_some_iff.mp found
    simp only [step, found, Session.step_message, List.set_getElem_self, List.map_nil]

namespace World

variable {settings : Settings} {m : Memory} {w : World Memory}

/-! ## Worlds that have come to rest

`settle` folds `arrive` and then `goOn` over the lines. With a cluster in memory no answer is on its
way, so the first fold does nothing (`AsShared.settle_eq`), and what is left is one `settleLine` for
each line. -/

/-- The invariant of settled worlds: every line waits. -/
structure Quiet (settings : Settings) (m : Memory) (w : World Memory) : Prop where
  shared : AsShared settings m w
  seated : w.Seated
  still : ∀ k, Still w k

/-- A line that waits is put back as it is, however many moves it may make. -/
theorem Quiet.line_same (quiet : Quiet settings m w) (n k : Nat) :
    World.settleLine n k w = w := by
  cases n with
  | zero => rfl
  | succ n =>
    cases here : w.lines[k]? with
    | none => exact settleLine_missing quiet.seated (Or.inl here) _
    | some l =>
      cases found : w.service.sessions[k]? with
      | none => exact settleLine_missing quiet.seated (Or.inr found) _
      | some s =>
        rw [settleLine_wait quiet.seated here found (quiet.still k l s here found)]
        obtain ⟨small, rfl⟩ := List.getElem?_eq_some_iff.mp here
        rw [List.set_getElem_self]

/-- With a cluster in memory no line expects an answer, so `arrive` finds nothing to do. -/
theorem AsShared.arrive_same (h : AsShared settings m w) (k : Nat) : World.arrive w k = w := by
  unfold World.arrive
  split
  next here =>
    cases h.prompt _ (List.mem_of_getElem? here)
  next => rfl

theorem AsShared.settle_eq (h : AsShared settings m w) :
    World.settle w = (List.range w.lines.length).foldl goOn w := by
  -- the world stays the same throughout, so the hypothesis serves for each line
  have arrived : ∀ ks : List Nat, ks.foldl World.arrive w = w := by
    intro ks
    induction ks with
    | nil => rfl
    | cons k ks ih => rw [List.foldl_cons, h.arrive_same k, ih]
  rw [World.settle, arrived]

/-- Settling a `Quiet` world changes nothing. -/
theorem Quiet.settle_same (quiet : Quiet settings m w) : World.settle w = w := by
  rw [quiet.shared.settle_eq]
  induction List.range w.lines.length with
  | nil => rfl
  | cons k ks ih => rw [List.foldl_cons, goOn, quiet.line_same, ih]

/-- After `goOn` for each line of a list, all lines are still if those outside the list were. -/
theorem foldl_goOn (ks : List Nat) (h : AsShared settings m w) (seated : w.Seated)
    (others : ∀ j, j ∉ ks → Still w j) : ∀ j, Still (ks.foldl goOn w) j := by
  induction ks generalizing w with
  | nil => exact fun j => others j (by simp)
  | cons k ks ih =>
    -- line `k` comes to rest here; only the lines of the tail may still have to go
    obtain ⟨seated', elsewhere, still⟩ := settleLine_still h seated (w.patience k) k
    have others' : ∀ j, j ∉ ks → Still (goOn w k) j := by
      intro j mem
      by_cases own : j = k
      · rw [own]
        exact still (work_lt_patience w k)
      · exact (others j (by simp [own, mem])).elsewhere own elsewhere
    exact ih ((AsShared.kept settings m).settleLine h (w.patience k) k) seated' others'

/-- `settle` leads to a `Quiet` world. -/
theorem quiet_settle (h : AsShared settings m w) (seated : w.Seated) :
    Quiet settings m (settle w) where
  shared := (AsShared.kept settings m).settle h
  seated := Seated.kept.settle seated
  still := by
    rw [h.settle_eq]
    refine foldl_goOn _ h seated fun j beyond => ?_
    refine still_of_missing (Or.inl (List.getElem?_eq_none ?_))
    exact Nat.le_of_not_lt fun small => beyond (List.mem_range.mpr small)

/-! ## At work

What is left for `Rests` are the changes that happen between two settled worlds without a `settle`:
events are noted, clients take what they were sent, and time passes without any line waking. In all
of them `Line.wait` of every line stays the same, and that is all that `Still` depends on. -/

/-- A line stays `Still` while the fields of `Line.wait` stay the same and no wake is passed over.
    -/
theorem still_of_waits {w' : World Memory} {k : Nat} (still : Still w k) (common : Common w w')
    (sessions : w'.service.sessions = w.service.sessions)
    (lines : w'.lines.map Line.wait = w.lines.map Line.wait)
    (early : ∀ l ∈ w.lines, ∀ t, l.wakes = some t → w.now < t → w'.now < t) : Still w' k := by
  intro l s here found
  have waits := congrArg (·[k]?) lines
  simp only [List.getElem?_map, here, Option.map_some] at waits
  obtain ⟨before, was, same⟩ := Option.map_eq_some_iff.mp waits.symm
  rw [sessions] at found
  have feed : before.feed = l.feed := congrArg (·.2.2.1) same
  have wakes : before.wakes = l.wakes := congrArg (·.2.2.2) same
  exact move_wait (still before s was found) common feed.symm wakes.symm
    (early before (List.mem_of_getElem? was))

/-- `Quiet` holds of every settled world. Inside a deed it is `AsShared` and `Seated` that are kept.
    -/
theorem Quiet.rests (settings : Settings) (m : Memory) :
    Rests (fun w => AsShared settings m w ∧ w.Seated) (Quiet settings m) where
  kept := (AsShared.kept settings m).and Seated.kept
  going quiet := ⟨quiet.shared, quiet.seated⟩
  settle h := quiet_settle h.1 h.2
  frame {w w'} quiet cluster state service now lines := by
    have keys : w'.lines.map Line.key = w.lines.map Line.key := keys_of_waits lines
    refine ⟨(AsShared.kept settings m).frame quiet.shared cluster state service now keys,
      Seated.kept.frame quiet.seated cluster state service now keys, fun k => ?_⟩
    refine still_of_waits (quiet.still k) ⟨by rw [service], by rw [service]⟩ (by rw [service]) lines ?_
    intro l _ t _ later
    rwa [now]
  later quiet t early :=
    ⟨(AsShared.rests settings m).elapse quiet.shared t, quiet.seated, fun k =>
      still_of_waits (quiet.still k) ⟨rfl, rfl⟩ rfl rfl early⟩
  list {w} quiet ns selector := by
    rw [quiet.shared.state_list]
    exact quiet
  get {w} quiet ns pod := by
    rw [quiet.shared.state_get]
    exact quiet
  elapse h t := ⟨(AsShared.rests settings m).elapse h.1 t, h.2⟩
  accept h _ own idle t := ⟨(AsShared.rests settings m).accept h.1 own idle t, h.2.accept own t⟩
  stop h := ⟨(AsShared.rests settings m).stop h.1, h.2.stop⟩

theorem quiet_start (settings : Settings) (present : Instant) (m : Memory) :
    Quiet settings m (start settings present Memory.cluster m) where
  shared := asShared_start settings present m
  seated := rfl
  still _ _ _ here := nomatch here

/-! ## Messages -/

/-- A client sends a message: a text, some bytes, a ping or a pong of an allowed length. -/
def Deed.isMessage : Deed → Bool
  | .send _ frame length => frame.signal length = .message
  | _ => false

theorem give_message (w : World Memory) (i : Nat) :
    w.give (.session i (.client .message)) = w := by
  simp only [give, Service.step_message]
  rfl

/-- A message leaves a `Quiet` world as it was: the session does not change, the line is not marked
    as closing, and settling changes nothing. -/
theorem Quiet.message (quiet : Quiet settings m w) {deed : Deed} (message : deed.isMessage = true) :
    w.after deed = w := by
  cases deed with
  | send k frame length =>
    have signal : frame.signal length = .message := of_decide_eq_true message
    have open' : frame ≠ .close := by
      rintro rfl
      cases signal
    have same : w.lines.modify k (fun l => { l with closing := l.closing || frame = .close }) =
        w.lines := by
      simp only [open', decide_false, Bool.or_false]
      exact List.modify_id k w.lines
    -- the line is marked as closing only by a close
    simp only [World.after, World.send]
    cases here : w.lines[k]? with
    | none => rfl
    | some l =>
      dsimp only
      split
      · rfl
      · have idle : l.expected = none := quiet.shared.prompt l (List.mem_of_getElem? here)
        simp only [same, signal, World.signal, here, idle, Option.isSome_none]
        exact (congrArg World.settle (give_message w l.session)).trans quiet.settle_same
  | request | connect | receive | drop | sleep | look | shutdown => cases message

/-- Any list of deeds leads to the same world, the clock and every inbox included, as the same list
    without the messages in it. -/
theorem undisturbed_at_work (settings : Settings) (present : Instant) (m : Memory)
    (deeds : List Deed) :
    let w := start settings present Memory.cluster m
    (deeds.filter (!·.isMessage)).foldl after w = deeds.foldl after w := by
  refine foldl_but_idle (P := Quiet settings m) ?_ ?_ (quiet_start settings present m) deeds
  · intro w deed quiet
    exact (Quiet.rests settings m).after quiet deed
  · intro w deed quiet message
    exact quiet.message (by simpa using message)

end World

end PodTail
