import PodTail.Proofs.Session.History

/-!
# A session and its log

`History.tidy_after`: a session holds a log exactly while it is in `Stage.relaying`. It opens one
log at most, and releases it before it waits for its watcher, before it closes its socket and before
it notes `sessionEnded`. A session that noted `sessionFailed` has opened none. `Tidy` is this as a
predicate of the stage and the acts.

The counts (`openings`, `releases`) and the order (`Orderly`) are kept apart. `Orderly acts` is
about every prefix of `acts`: in none of them are there more releases than openings, and before a
farewell there are as many. It is proved for a list by appending one act after the other
(`Orderly.concat`), so no induction over histories is needed here. `Stands` from
`PodTail.Proofs.Session.History` gives the list of deeds at each stage, and `Stands.tidy` checks
those few lists; `of_deeds` takes the result from the deeds to all acts, since nothing that is not a
deed counts.
-/

set_option autoImplicit false

namespace PodTail

namespace Session

/-! ## Counting

`openings` and `releases` are `List.countP`, with the lemmas for `simp` by which they compute on
`++` and `::`. An opening, a release and a farewell are deeds each, so both counts are the same on
the deeds. -/

def Act.isOpening : Act → Bool
  | .opened => true
  | _ => false

def Act.isRelease : Act → Bool
  | .release _ => true
  | _ => false

/-- What a session does last: it closes its socket and notes that it is over. -/
def Act.isFarewell : Act → Bool
  | .close => true
  | .note (.sessionEnded ..) => true
  | _ => false

/-- How many logs are opened. -/
def openings (acts : List Act) : Nat :=
  acts.countP Act.isOpening

/-- How many logs are let go. -/
def releases (acts : List Act) : Nat :=
  acts.countP Act.isRelease

@[simp]
theorem openings_append (acts more : List Act) :
    openings (acts ++ more) = openings acts + openings more :=
  List.countP_append

@[simp]
theorem releases_append (acts more : List Act) :
    releases (acts ++ more) = releases acts + releases more :=
  List.countP_append

@[simp]
theorem openings_cons (a : Act) (acts : List Act) :
    openings (a :: acts) = openings acts + if a.isOpening then 1 else 0 :=
  List.countP_cons

@[simp]
theorem releases_cons (a : Act) (acts : List Act) :
    releases (a :: acts) = releases acts + if a.isRelease then 1 else 0 :=
  List.countP_cons

@[simp]
theorem openings_nil : openings [] = 0 :=
  rfl

@[simp]
theorem releases_nil : releases [] = 0 :=
  rfl

theorem isDeed_of_isOpening {a : Act} (h : a.isOpening = true) : a.isDeed = true := by
  cases a with
  | opened => rfl
  | ask | release | send | close | note => cases h

theorem isDeed_of_isRelease {a : Act} (h : a.isRelease = true) : a.isDeed = true := by
  cases a with
  | release => rfl
  | ask | opened | send | close | note => cases h

theorem isDeed_of_isFarewell {a : Act} (h : a.isFarewell = true) : a.isDeed = true := by
  unfold Act.isFarewell at h
  split at h
  · rfl
  · rfl
  · simp at h

theorem openings_deeds (acts : List Act) : openings (deeds acts) = openings acts := by
  rw [openings, deeds, List.countP_filter]
  refine List.countP_congr fun a _ => ?_
  simpa using isDeed_of_isOpening

theorem releases_deeds (acts : List Act) : releases (deeds acts) = releases acts := by
  rw [releases, deeds, List.countP_filter]
  refine List.countP_congr fun a _ => ?_
  simpa using isDeed_of_isRelease

/-- Acts that neither open a log nor release one count for nothing. -/
theorem counts_of_others {acts : List Act}
    (others : ∀ a ∈ acts, a.isOpening = false ∧ a.isRelease = false) :
    openings acts = 0 ∧ releases acts = 0 := by
  refine ⟨List.countP_eq_zero.mpr fun a mem => ?_, List.countP_eq_zero.mpr fun a mem => ?_⟩
  · simp [(others a mem).1]
  · simp [(others a mem).2]

theorem openings_notes (events : List Event) : openings (events.map .note) = 0 := by
  refine (counts_of_others fun a mem => ?_).1
  obtain ⟨e, _, rfl⟩ := List.mem_map.mp mem
  exact ⟨rfl, rfl⟩

/-- A session that begins opens no log yet. -/
theorem openings_start (label : String) (tail : Option Int) (shutdown : Bool) (t : Target) :
    openings (Session.start label tail shutdown t).2 = 0 := by
  obtain ⟨events, _, ⟨why, eq⟩ | ⟨d, q, eq⟩⟩ := start_cases label tail shutdown t
  · simp [eq, openings_notes, Act.isOpening]
  · simp [eq, openings_notes, Act.isOpening]

/-- What a step adds to `openings`: that of its input (`Input.opening`), if the session hears the
    input at all. This is what ties the logs a cluster has opened to those its sessions know of. -/
theorem Change.openings {shutdown : Bool} {s s' : Session} {i : Input} {acts : List Act}
    (change : Change shutdown s i s' acts) :
    openings acts = if (s.hears i).isSome then Session.openings i.opening else 0 := by
  -- The end of a relay releases; whether it also closes depends on the watcher.
  have parting : ∀ (s : Session) (result : RelayEnd), Session.openings (s.part result).2 = 0 := by
    intro s result
    unfold part
    split <;> rfl
  cases change with
  | ignored i deaf => simp [deaf]
  | opens stage hears | opensLate stage hears =>
    rw [hears_of_looking stage hears]
    simp [openings_notes, Act.isOpening, Input.opening]
  | asks _ _ _ given | refused _ _ given =>
    rw [Input.opening_eq_nil given]
    simp [openings_notes, Act.isOpening]
  | reads | rests | resumes | ends | tells | closesEmpty | closes =>
    simp [openings_notes, parting, Act.isOpening, Input.opening]
  | watched _ why | parts _ why =>
    simp [openings_notes, why.deaf.1, Act.isOpening]

/-! ## The order of acts

There are three ways in which `Orderly` grows: by one act under its guards (`concat`), by acts that
are neither releases nor farewells (`append`), and by acts that are no business of a log once none
is held (`append_even`). -/

/-- No log is let go before it is opened, and at a farewell none is held. -/
structure Orderly (acts : List Act) : Prop where
  opened : ∀ before, before <+: acts → releases before ≤ openings before
  farewell : ∀ before a, before ++ [a] <+: acts → a.isFarewell = true →
    releases before = openings before

theorem Orderly.nil : Orderly [] where
  opened before h := by simp [List.prefix_nil.mp h]
  farewell before a h _ := by simp at h

/-- One act more: a log that is let go must be held, and at a farewell none may be. -/
theorem Orderly.concat {acts : List Act} {a : Act} (h : Orderly acts)
    (held : a.isRelease = true → releases acts < openings acts)
    (free : a.isFarewell = true → releases acts = openings acts) : Orderly (acts ++ [a]) where
  opened before at' := by
    -- A prefix of the longer list is that list itself, or a prefix of `acts`.
    rcases List.prefix_concat_iff.mp at' with rfl | at'
    · have all := h.opened acts List.prefix_rfl
      by_cases release : a.isRelease = true
      · have := held release
        simp [release]
        omega
      · simp [release]
        omega
    · exact h.opened before at'
  farewell before b at' bye := by
    rcases List.prefix_concat_iff.mp at' with same | at'
    · obtain ⟨rfl, rfl⟩ := List.append_singleton_inj.mp same
      exact free bye
    · exact h.farewell before b at' bye

/-- Acts that have nothing to do with logs change no order. -/
theorem Orderly.append {acts more : List Act} (h : Orderly acts)
    (others : ∀ a ∈ more, a.isRelease = false ∧ a.isFarewell = false) : Orderly (acts ++ more) := by
  induction more generalizing acts with
  | nil => rwa [List.append_nil]
  | cons a more ih =>
    have first := others a (List.mem_cons_self ..)
    rw [List.append_cons]
    refine ih (h.concat ?_ ?_) fun b mem => others b (List.mem_cons_of_mem a mem)
    · simp [first.1]
    · simp [first.2]

/-- Once no log is held, any act goes that is not about a log. -/
theorem Orderly.append_even {acts more : List Act} (h : Orderly acts)
    (even : releases acts = openings acts)
    (others : ∀ a ∈ more, a.isOpening = false ∧ a.isRelease = false) : Orderly (acts ++ more) := by
  induction more generalizing acts with
  | nil => rwa [List.append_nil]
  | cons a more ih =>
    have first := others a (List.mem_cons_self ..)
    rw [List.append_cons]
    refine ih (h.concat ?_ fun _ => even) ?_ fun b mem => others b (List.mem_cons_of_mem a mem)
    · simp [first.2]
    · simp [first, even]

/-- The order of the deeds is the order of the acts: filtering takes prefixes to prefixes and keeps
    the counts, and a farewell is a deed itself. -/
theorem Orderly.of_deeds {acts : List Act} (h : Orderly (deeds acts)) : Orderly acts where
  opened before at' := by
    rw [← releases_deeds, ← openings_deeds before]
    exact h.opened _ (at'.filter _)
  farewell before a at' bye := by
    rw [← releases_deeds, ← openings_deeds before]
    refine h.farewell _ a ?_ bye
    have deed : deeds [a] = [a] := by simp [isDeed_of_isFarewell bye]
    rw [← deed, ← deeds_append]
    exact at'.filter _

/-! ## Tidy sessions

The lists of deeds in `Stands` are of three shapes: without a log (`tidy_without`), with a log that
is held (`tidy_relaying`), and with a log that has been released (`tidy_parted`). -/

/-- Whether a session holds a log. -/
def Stage.holds : Stage → Bool
  | .relaying .. => true
  | _ => false

/-- What a session that is in a stage has done with logs. -/
structure Tidy (stage : Stage) (acts : List Act) : Prop where
  once : openings acts ≤ 1
  /-- What it has opened and does not hold any more it has let go. -/
  balance : openings acts = releases acts + if stage.holds then 1 else 0
  orderly : Orderly acts
  failed : ∀ t why, .note (.sessionFailed t why) ∈ acts → openings acts = 0

theorem Tidy.of_deeds {stage : Stage} {acts : List Act} (h : Tidy stage (deeds acts)) :
    Tidy stage acts where
  once := openings_deeds acts ▸ h.once
  balance := by
    rw [← openings_deeds, ← releases_deeds]
    exact h.balance
  orderly := h.orderly.of_deeds
  failed t why mem := by
    rw [← openings_deeds]
    exact h.failed t why (List.mem_filter.mpr ⟨mem, rfl⟩)

theorem sends_others (t : Target) (lines : List String) (error : Option String) :
    ∀ a ∈ sends t lines error, ∃ frame, a = .send frame := by
  intro a mem
  rcases List.mem_append.mp mem with mem | mem
  · obtain ⟨text, _, rfl⟩ := List.mem_map.mp mem
    exact ⟨_, rfl⟩
  · obtain ⟨reason, _, rfl⟩ := Option.map_eq_some_iff.mp (Option.mem_toList.mp mem)
    exact ⟨_, rfl⟩

theorem counts_sends (t : Target) (lines : List String) (error : Option String) :
    openings (sends t lines error) = 0 ∧ releases (sends t lines error) = 0 := by
  refine counts_of_others fun a mem => ?_
  obtain ⟨frame, rfl⟩ := sends_others t lines error a mem
  exact ⟨rfl, rfl⟩

@[simp]
theorem openings_sends (t : Target) (lines : List String) (error : Option String) :
    openings (sends t lines error) = 0 :=
  (counts_sends t lines error).1

@[simp]
theorem releases_sends (t : Target) (lines : List String) (error : Option String) :
    releases (sends t lines error) = 0 :=
  (counts_sends t lines error).2

/-- The deeds of a session that relays: the opening, and then frames only. -/
theorem tidy_relaying (t : Target) (r : Relay.State) (source : OpenLog) (lines : List String)
    (error : Option String) :
    Tidy (.relaying r source) (.opened :: sends t lines error) where
  once := by simp [Act.isOpening]
  balance := by simp [Stage.holds, Act.isOpening, Act.isRelease]
  orderly := by
    have first : Orderly [.opened] :=
      Orderly.nil.concat (by simp [Act.isRelease]) (by simp [Act.isFarewell])
    refine first.append fun a mem => ?_
    obtain ⟨frame, rfl⟩ := sends_others t lines error a mem
    exact ⟨rfl, rfl⟩
  failed t' why mem := by
    rcases List.mem_cons.mp mem with same | mem
    · cases same
    · obtain ⟨frame, same⟩ := sends_others t lines error _ mem
      cases same

theorem parted_others {t : Target} {stage : Stage} {rest : List Act} (at' : Parted t stage rest) :
    stage.holds = false ∧ ∀ a ∈ rest, a.isOpening = false ∧ a.isRelease = false ∧
      ∀ t' why, a ≠ .note (.sessionFailed t' why) := by
  cases at' <;> simp [Stage.holds, Act.isOpening, Act.isRelease]

/-- The deeds of a session that has released its log. What comes behind the release is neither an
    opening nor a release (`parted_others`). -/
theorem tidy_parted {t : Target} {stage : Stage} {rest : List Act} (source : OpenLog)
    (lines : List String) (error : Option String) (at' : Parted t stage rest) :
    Tidy stage (.opened :: (sends t lines error ++ .release source :: rest)) := by
  obtain ⟨free, others⟩ := parted_others at'
  have relaying := tidy_relaying t ⟨.reading, 0⟩ source lines error
  obtain ⟨opened, released⟩ : openings rest = 0 ∧ releases rest = 0 :=
    counts_of_others fun a mem => ⟨(others a mem).1, (others a mem).2.1⟩
  refine ⟨?_, ?_, ?_, ?_⟩
  · simp [opened, Act.isOpening]
  · simp [opened, released, free, Act.isOpening, Act.isRelease]
  -- The release is the one act that `concat` has to answer for; `append_even` takes the rest.
  · have before : Orderly (.opened :: sends t lines error ++ [.release source]) :=
      relaying.orderly.concat (by simp [Act.isOpening, Act.isRelease]) (by simp [Act.isFarewell])
    have all := before.append_even (by simp [Act.isOpening, Act.isRelease]) fun a mem =>
      ⟨(others a mem).1, (others a mem).2.1⟩
    simpa using all
  · intro t' why mem
    rcases List.mem_cons.mp mem with same | mem
    · cases same
    rcases List.mem_append.mp mem with mem | mem
    · obtain ⟨frame, same⟩ := sends_others t lines error _ mem
      cases same
    · rcases List.mem_cons.mp mem with same | mem
      · cases same
      · exact absurd rfl ((others _ mem).2.2 t' why)

/-- Deeds without an opening and without a release, at a stage that holds no log. -/
theorem tidy_without {stage : Stage} {done : List Act} (free : stage.holds = false)
    (others : ∀ a ∈ done, a.isOpening = false ∧ a.isRelease = false) : Tidy stage done := by
  obtain ⟨opened, released⟩ := counts_of_others others
  refine ⟨by omega, by simp [opened, released, free], ?_, fun _ _ _ => opened⟩
  simpa using Orderly.nil.append_even rfl others

/-- Where a session stands, it is tidy. -/
theorem Stands.tidy {label : String} {tail : Option Int} {t : Target} {stage : Stage}
    {answered : List Exchange} {taken : List Relay.Item} {done : List Act}
    (stands : Stands label tail t stage answered taken done) : Tidy stage done := by
  cases stands with
  | looking | apologising =>
    exact tidy_without rfl (by simp [Act.isOpening, Act.isRelease])
  | excused at' =>
    refine tidy_without ?_ (by simp [Act.isOpening, Act.isRelease])
    rcases at' with rfl | rfl <;> rfl
  | @relaying r source answered lines error goes last => exact tidy_relaying t r source lines error
  | @parted stage source answered lines error last rest goes at' finish =>
    exact tidy_parted source lines error at'

/-- **A session is tidy after every list of inputs.** -/
theorem History.tidy_after (label : String) (tail : Option Int) (t : Target) (first : Bool)
    (inputs : List (Bool × Input)) :
    Tidy (after label tail t first inputs).session.stage (after label tail t first inputs).acts :=
  (stands_after label tail t first inputs).2.tidy.of_deeds

end Session

end PodTail
