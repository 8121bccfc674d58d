import PodTail.Proofs.Service.Keeping
import PodTail.Proofs.Service.Sharing

/-!
# The service at work, with a cluster in memory

`World` is the service with a clock and with clients, and `Shared` leaves both out: in `Shared.run`
inputs come in any order. This file shows that a `World` with a cluster in memory is one of the runs
of `Shared`, so that what is proved of all runs of `Shared` holds in time as well.

The refinement is `AsShared settings m w`: some list of happenings leads `Shared.run` to the service
and the cluster state of `w`. It is kept by every function of `World`, which takes three steps.

* `AsShared.give` and `AsShared.log`: each input that `World.give` hands to the service is one
  `Shared.Happening`, and the acts it makes change the cluster as `Shared.perform` does
  (`state_acts`).
* `AsShared.kept` supplies what `Kept` asks for. A cluster in memory has no delays, so the fields
  for answers on their way (`expect`, `reached`) hold vacuously, by the field `prompt`.
* `AsShared.rests` adds time, new sessions and the shutdown, as `Rests` asks for.

The result is `no_log_leaks_at_work`, which carries the bounds of `Shared.Sound` over to any list of
deeds.
-/

set_option autoImplicit false

namespace PodTail

open Session (Act)

namespace World

variable {settings : Settings} {m : Memory} {w : World Memory}

/-- The service and the cluster state of the world are those of a run of `Shared`. -/
structure AsShared (settings : Settings) (m : Memory) (w : World Memory) : Prop where
  cluster : w.cluster = Memory.cluster
  /-- A cluster in memory answers at once. -/
  prompt : ∀ l ∈ w.lines, l.expected = none
  run : ∃ happenings acts, Shared.run Memory.cluster (Shared.start settings m) happenings =
    ⟨w.service, w.state, acts⟩

theorem asShared_start (settings : Settings) (present : Instant) (m : Memory) :
    AsShared settings m (World.start settings present Memory.cluster m) where
  cluster := rfl
  prompt _ mem := absurd mem List.not_mem_nil
  run := ⟨[], [], rfl⟩

/-! ## A cluster in memory

It answers without delay, it never breaks a session off, questions do not change it, and the acts of
sessions reach it as in `Shared`. -/

theorem delay_memory (m : Memory) (question : Lookup.Question) :
    Memory.cluster.delay m question = some 0 :=
  rfl

/-- `Memory.log` fails with `podNotFound` only, which is not a failure that `resume` breaks off at.
    -/
theorem log_not_fatal (m : Memory) (ns pod container : String) (tail : Option Int) :
    isFatal (.opened (Memory.cluster.log m ns pod container tail).1) = false := by
  show isFatal (.opened (m.log ns pod container tail).1) = false
  unfold Memory.log Memory.get
  cases m.find? ns pod <;> rfl

/-- Neither a list nor a pod that is asked for changes a cluster in memory. -/
theorem AsShared.state_list (h : AsShared settings m w) (ns : String) (selector : Labels) :
    (w.cluster.list w.state ns selector).2.2 = w.state := by
  rw [h.cluster]
  rfl

theorem AsShared.state_get (h : AsShared settings m w) (ns pod : String) :
    (w.cluster.get w.state ns pod).2 = w.state := by
  rw [h.cluster]
  rfl

theorem prompt_of_keys {lines lines' : List Line} (h : ∀ l ∈ lines, l.expected = none)
    (same : lines'.map Line.key = lines.map Line.key) : ∀ l ∈ lines', l.expected = none := by
  intro l mem
  obtain ⟨before, found, key⟩ := List.mem_map.mp (same ▸ List.mem_map_of_mem mem)
  have expected : before.expected = l.expected := congrArg Prod.snd key
  rw [← expected, h before found]

/-- `World.act` changes the cluster as `Shared.perform` does: only a release reaches it. -/
theorem state_acts (w : World Memory) (acts : List (Nat × Act)) :
    (acts.foldl act w).state = Shared.perform w.cluster w.state acts := by
  induction acts generalizing w with
  | nil => rfl
  | cons a acts ih =>
    obtain ⟨i, act⟩ := a
    cases act <;> exact ih _

/-! ## Inputs

A run is made longer by one happening at its end (`happen`). `give_of` does the comparison of
`World.give` with `Shared.give` once, for all kinds of input. -/

theorem AsShared.happen (h : AsShared settings m w) (happening : Shared.Happening) :
    ∃ happenings acts, Shared.run Memory.cluster (Shared.start settings m) happenings =
      Shared.step Memory.cluster ⟨w.service, w.state, acts⟩ happening := by
  obtain ⟨happenings, acts, run⟩ := h.run
  refine ⟨happenings ++ [happening], acts, ?_⟩
  rw [← run]
  exact List.foldl_append

/-- If `Shared.give` of an input can be reached by a run, then `World.give` of it is `AsShared`
    again. -/
theorem AsShared.give_of {input : Service.Input} (cluster : w.cluster = Memory.cluster)
    (prompt : ∀ l ∈ w.lines, l.expected = none)
    (run : ∃ happenings acts, Shared.run Memory.cluster (Shared.start settings m) happenings =
      Shared.give Memory.cluster ⟨w.service, w.state, acts⟩ input) :
    AsShared settings m (w.give input) := by
  obtain ⟨happenings, acts, run⟩ := run
  have like := like_give w input
  refine ⟨like.cluster.trans cluster, prompt_of_keys prompt like.lines, happenings,
    acts ++ (w.service.step input).2, ?_⟩
  -- both fold the acts of the same step over the same cluster state
  have told := state_acts { w with service := (w.service.step input).1 } (w.service.step input).2
  rw [run, Shared.give, like.service]
  unfold World.give
  rw [told, cluster]

theorem AsShared.give (h : AsShared settings m w) (input : Service.Input)
    (other : ∀ i answer, input ≠ .session i (.opened answer)) :
    AsShared settings m (w.give input) := by
  refine AsShared.give_of h.cluster h.prompt ?_
  cases input with
  | accept t => exact h.happen (.accepted t)
  | session i input => exact h.happen (.comes i input fun answer same => other i answer (same ▸ rfl))
  | shutdown => exact h.happen .stopped

/-- A log that the cluster opens for a waiting session is the happening `asked`, since `Shared.step`
    takes its answer from the same cluster in the same state. -/
theorem AsShared.log (h : AsShared settings m w) {i : Nat} {ns pod container : String}
    {tail : Option Int} {next : Except ClusterFailure OpenLog → Lookup OpenLog}
    (asks : w.service.sessions[i]?.map (·.stage) =
      some (.looking (.log ns pod container tail next))) :
    AsShared settings m
      (World.give { w with state := (Memory.cluster.log w.state ns pod container tail).2 }
        (.session i (.opened (Memory.cluster.log w.state ns pod container tail).1))) := by
  refine AsShared.give_of h.cluster h.prompt ?_
  obtain ⟨happenings, acts, run⟩ := h.happen (.asked i)
  refine ⟨happenings, acts, run.trans ?_⟩
  simp only [Shared.step, asks]

/-! ## At work -/

/-- `AsShared` is kept while a world goes on. -/
theorem AsShared.kept (settings : Settings) (m : Memory) : Kept (AsShared settings m) where
  frame h cluster state service _ lines := by
    refine ⟨cluster.trans h.cluster, prompt_of_keys h.prompt lines, ?_⟩
    rw [service, state]
    exact h.run
  give h i input other := by
    refine h.give (.session i input) ?_
    rintro _ answer ⟨⟩
    exact other answer rfl
  list h ns selector := by
    rw [h.state_list]
    exact h
  get h ns pod := by
    rw [h.state_get]
    exact h
  log {w} h i ns pod container tail next asks := by
    obtain ⟨now, present, cluster, state, service, lines, events, crowded⟩ := w
    obtain rfl : cluster = Memory.cluster := h.cluster
    rw [resume, if_neg (by simp [log_not_fatal])]
    exact h.log asks
  expect {w} h slow i ms events input := by
    obtain ⟨state, question, late⟩ := slow
    rw [h.cluster] at late
    exact absurd (delay_memory state question) late
  reached {w} h k l here events input expected := by
    rw [h.prompt l (List.mem_of_getElem? here)] at expected
    cases expected

/-- `AsShared` is kept by whole deeds: time does not occur in it, a new session is the happening
    `accepted` and a shutdown the happening `stopped`. -/
theorem AsShared.rests (settings : Settings) (m : Memory) :
    Rests (AsShared settings m) (AsShared settings m) := by
  refine (AsShared.kept settings m).rests ?_ ?_ ?_
  · intro w h t
    exact ⟨h.cluster, h.prompt, h.run⟩
  · intro w h l own idle t
    have seated : AsShared settings m { w with lines := w.lines ++ [l] } := by
      refine ⟨h.cluster, fun other mem => ?_, h.run⟩
      rcases List.mem_append.mp mem with old | new
      · exact h.prompt other old
      · rw [List.mem_singleton.mp new, idle]
    exact seated.give (.accept t) fun _ _ => nofun
  · intro w h
    exact h.give .shutdown fun _ _ => nofun

/-- **No log is leaked at work.** After any list of deeds, the counter `closed` of a cluster in
    memory is at most its counter `opened`, and the difference is at most the number of live
    sessions. -/
theorem no_log_leaks_at_work (settings : Settings) (present : Instant) (m : Memory)
    (deeds : List Deed) :
    let w := deeds.foldl after
      (start settings present Memory.cluster { m with opened := 0, closed := 0 })
    w.state.closed ≤ w.state.opened ∧ w.state.opened ≤ w.state.closed + w.service.live := by
  intro w
  have shared : AsShared settings { m with opened := 0, closed := 0 } w :=
    (AsShared.rests settings _).run (asShared_start settings present _) deeds
  obtain ⟨happenings, acts, run⟩ := shared.run
  -- the bounds hold for the acts of the run, and the counters are the counts of these acts
  have sound := Shared.sound_run Memory.cluster settings { m with opened := 0, closed := 0 } happenings
  have counted := Shared.counted_run settings m happenings
  rw [run] at sound counted
  rw [counted.opened, counted.closed]
  exact sound.bounds

end World

end PodTail
