import PodTail.Proofs.Session.History

/-!
# What a client gets to see

`wire_language`: what a session does on its socket, text frames and the close, is at every moment a
prefix of one of two sequences. If the look-up failed, that is the frame of `apology` and the close.
If it did not, it is the frames of lines, one error frame if the log failed, and the close
(`framed`). Which of the two it is depends on the look-up alone, that is, on the answers.

`emitted` gives the emissions of a list of acts; all of them are deeds (`emitted_deeds`), so
`Stands` tells what they are (`Stands.speaks`).

The other half is that a client can read the frames back. `Target.meaning?` is that reading for a
client which knows its own request: a frame that starts with `Target.lead` is a line, whatever the
line says, and one that starts with `error: ` is a failure. A lead begins with the name of a `Kind`,
so with another character than an error frame (`lead_head`, `errorFrame_head`), and the two cannot
be confused. Hence the frames of a session determine the items it has read (`meanings_framed`,
`framed_injective`).
-/

set_option autoImplicit false

namespace PodTail

/-! ## Reading frames

`textAfter` is the decoder's only operation. It succeeds on what has been written with the lead
(`textAfter_append`) and fails where already the first characters differ (`textAfter_ne`). -/

/-- What stands behind a text, in a text that starts with it. -/
def textAfter (lead text : String) : Option String :=
  if lead.toList <+: text.toList then some (String.ofList (text.toList.drop lead.toList.length))
  else none

theorem textAfter_append (lead rest : String) : textAfter lead (lead ++ rest) = some rest := by
  simp [textAfter]

theorem textAfter_ne {lead text : String} (h : lead.toList.head? ≠ text.toList.head?)
    (starts : lead.toList ≠ []) : textAfter lead text = none := by
  refine if_neg fun ⟨rest, eq⟩ => h ?_
  rw [← eq, List.head?_append, List.head?_eq_some_head starts]
  rfl

namespace Target

/-- What a client that made this request reads a frame as. -/
def meaning? (t : Target) (frame : String) : Option Relay.Item :=
  ((textAfter t.lead frame).map .line).or ((textAfter "error: " frame).map .failure)

/-- A lead begins with the name of a kind, so with a capital letter. -/
theorem lead_head (t : Target) : t.lead.toList.head? = some 'P' ∨ t.lead.toList.head? = some 'C' := by
  obtain ⟨ns, kind, identifier, pod, container⟩ := t
  cases kind with
  | pod => exact Or.inl (by simp [lead, Kind.name])
  | capp => exact Or.inr (by simp [lead, Kind.name])

theorem errorFrame_head (message : String) :
    (Relay.errorFrame message).toList.head? = some 'e' := by
  simp [Relay.errorFrame]

@[simp]
theorem meaning_frame (t : Target) (line : String) : t.meaning? (t.frame line) = some (.line line) := by
  simp [meaning?, frame, textAfter_append]

/-- An error frame is read as its failure. -/
@[simp]
theorem meaning_errorFrame (t : Target) (message : String) :
    t.meaning? (Relay.errorFrame message) = some (.failure message) := by
  have other : t.lead.toList.head? ≠ (Relay.errorFrame message).toList.head? := by
    rw [errorFrame_head]
    rcases t.lead_head with h | h <;> simp [h]
  have starts : t.lead.toList ≠ [] := by
    intro empty
    rcases t.lead_head with h | h <;> simp [empty] at h
  rw [meaning?, textAfter_ne other starts, Relay.errorFrame, textAfter_append]
  rfl

/-- No line, of whatever text, is sent in a frame that reports a failure. -/
theorem frame_ne_errorFrame (t : Target) (line message : String) :
    t.frame line ≠ Relay.errorFrame message := by
  intro same
  have meanings := congrArg t.meaning? same
  simp at meanings

end Target

/-! ## What is done on the socket

The emissions of a session in order, the frames among them, and how these go with `sends` and
`items`, the deeds and the items of a relay. -/

namespace Session

/-- Something that a session begins to do on its socket. -/
inductive Emission where
  | text (frame : String)
  | close
  deriving DecidableEq, Repr

/-- What an act does on the socket. -/
def Act.emission? : Act → Option Emission
  | .send frame => some (.text frame)
  | .close => some .close
  | _ => none

/-- What some acts do on the socket, in order. -/
def emitted (acts : List Act) : List Emission :=
  acts.filterMap Act.emission?

/-- The frames among what is done on the socket. -/
def frames (emissions : List Emission) : List String :=
  emissions.filterMap fun
    | .text frame => some frame
    | .close => none

/-- Sending and closing are deeds, so nothing is emitted by an act that is none. -/
theorem emitted_deeds (acts : List Act) : emitted (deeds acts) = emitted acts := by
  induction acts with
  | nil => rfl
  | cons act acts ih =>
    cases act with
    | ask => exact ih
    | opened | release => exact ih
    | send frame => exact congrArg (.text frame :: ·) ih
    | close => exact congrArg (.close :: ·) ih
    | note e =>
      cases ended : e.isOutcome with
      | false =>
        rw [deeds_cons, Act.isDeed, ended]
        exact ih
      | true =>
        rw [deeds_cons, Act.isDeed, ended]
        exact ih

@[simp]
theorem emitted_append (acts more : List Act) :
    emitted (acts ++ more) = emitted acts ++ emitted more :=
  List.filterMap_append

/-- The frames of some lines, and an error frame behind them if there is one. -/
def framed (t : Target) (lines : List String) (error : Option String) : List String :=
  lines.map t.frame ++ (error.map Relay.errorFrame).toList

theorem emitted_sends (t : Target) (lines : List String) (error : Option String) :
    emitted (sends t lines error) = (framed t lines error).map .text := by
  have each : emitted (lines.map fun text => .send (t.frame text)) =
      (lines.map t.frame).map .text := by
    simp [emitted, List.filterMap_map, Function.comp_def, Act.emission?]
  rw [sends, emitted_append, each, framed, List.map_append]
  cases error <;> rfl

/-- The frames that are sent are read back as the items they were sent for. -/
theorem meanings_framed (t : Target) (lines : List String) (error : Option String) :
    (framed t lines error).map t.meaning? = (items lines error).map some := by
  cases error <;> simp [framed, items, Function.comp_def]

theorem items_injective {lines lines' : List String} {error error' : Option String}
    (h : items lines error = items lines' error') : lines = lines' ∧ error = error' := by
  -- The lines come first, so the first item that is no line is where the error stands.
  induction lines generalizing lines' with
  | nil =>
    cases lines' <;> cases error <;> cases error' <;> simp_all [items]
  | cons line lines ih =>
    cases lines' with
    | nil => cases error' <;> simp [items] at h
    | cons line' lines' =>
      simp only [items, List.map_cons, List.cons_append, List.cons.injEq, Relay.Item.line.injEq] at h
      obtain ⟨rfl, h⟩ := h
      obtain ⟨rfl, rfl⟩ := ih h
      exact ⟨rfl, rfl⟩

/-- Different lines, or a different error, make different frames: `Target.meaning?` tells them
    apart. -/
theorem framed_injective (t : Target) {lines lines' : List String} {error error' : Option String}
    (h : framed t lines error = framed t lines' error') : lines = lines' ∧ error = error' := by
  have meanings := congrArg (List.map t.meaning?) h
  rw [meanings_framed, meanings_framed] at meanings
  exact items_injective ((List.map_inj_right fun _ _ => Option.some.inj).mp meanings)

theorem frames_text (texts : List String) {rest : List Emission} (ends : rest <+: [.close]) :
    frames (texts.map .text ++ rest) = texts := by
  have silent : frames rest = [] := by
    rcases List.prefix_cons_iff.mp ends with rfl | ⟨more, rfl, nil⟩
    · rfl
    · rw [List.prefix_nil.mp nil]
      rfl
  have each : frames (texts.map .text) = texts := by
    rw [frames, List.filterMap_map]
    exact List.filterMap_some
  rw [frames, List.filterMap_append, ← frames, ← frames, each, silent, List.append_nil]

theorem Parted.emitted {t : Target} {stage : Stage} {rest : List Act} (h : Parted t stage rest) :
    emitted rest <+: [.close] := by
  cases h <;> simp [Session.emitted, Act.emission?]

/-- The emissions of a session by where it stands. The two alternatives exclude each other, since a
    look-up that has been answered in full has one outcome (`Lookup.Goes.unique`). -/
theorem Stands.speaks {label : String} {tail : Option Int} {t : Target} {stage : Stage}
    {answered : List Exchange} {taken : List Relay.Item} {done : List Act}
    (stands : Stands label tail t stage answered taken done) :
    (∃ why rest, Lookup.Goes (Lookup.openTarget label tail t) answered (.error why) ∧
      emitted done = .text (apology t why) :: rest ∧ rest <+: [.close]) ∨
    (∀ why, ¬ Lookup.Goes (Lookup.openTarget label tail t) answered (.error why)) ∧
      ∃ lines error rest, emitted done = (framed t lines error).map .text ++ rest ∧
        rest <+: [.close] ∧ items lines error <+: taken ∧ taken <+: items lines error ++ [.finish] := by
  -- `Goes.unique`: a look-up with these answers does not both find a log and fail.
  have opened : ∀ source : OpenLog,
      Lookup.Goes (Lookup.openTarget label tail t) answered (.ok source) →
      ∀ why, ¬ Lookup.Goes (Lookup.openTarget label tail t) answered (.error why) := by
    intro source goes why fails
    cases goes.unique fails
  cases stands with
  | apologising goes => exact Or.inl ⟨_, [], goes, rfl, List.nil_prefix⟩
  | excused at' goes => exact Or.inl ⟨_, [.close], goes, rfl, List.prefix_rfl⟩
  | @looking d q answered _ question left =>
    -- A look-up that still has a question has no outcome yet, and nothing has been emitted.
    refine Or.inr ⟨fun why fails => ?_, [], none, [], rfl, List.nil_prefix, List.nil_prefix,
      List.nil_prefix⟩
    rw [← List.append_nil answered, ← left] at fails
    exact fails.ne_nil question rfl
  | @relaying r source answered lines error goes last =>
    refine Or.inr ⟨opened source goes, lines, error, [], ?_, List.nil_prefix, List.prefix_rfl,
      List.prefix_append ..⟩
    rw [List.append_nil, ← emitted_sends]
    rfl
  | @parted stage source answered lines error last rest goes at' finish =>
    refine Or.inr ⟨opened source goes, lines, error, emitted rest, ?_, at'.emitted,
      List.prefix_append .., ?_⟩
    · rw [← emitted_sends]
      exact emitted_append _ (.release source :: rest)
    · rcases finish with rfl | rfl
      · simp
      · exact List.prefix_rfl

/-- **The wire language of a session.** After any inputs, if the look-up has failed, the session has
    sent one frame that says why, and closed the socket at most once behind it. Otherwise it has
    sent the frames of the lines it has read from the log, in order, then the error frame if it has
    read a failure, and closed the socket at most once behind these.

    The rest is about decoding: `Target.meaning?` reads each frame as the item it was sent for, no
    frame of a line is an error frame, and two sequences of frames are equal only if the lines and
    the errors are. -/
theorem wire_language (label : String) (tail : Option Int) (t : Target) (first : Bool)
    (inputs : List (Bool × Input)) :
    let h := History.after label tail t first inputs
    ((∃ why rest, Lookup.Goes (Lookup.openTarget label tail t) h.answered (.error why) ∧
        emitted h.acts = .text ("error: " ++
          ("Error streaming " ++ t.kind.name ++ " logs: " ++ why.message)) :: rest ∧
        rest <+: [.close]) ∨
      (∀ why, ¬ Lookup.Goes (Lookup.openTarget label tail t) h.answered (.error why)) ∧
        ∃ lines error rest, emitted h.acts = (framed t lines error).map .text ++ rest ∧
          rest <+: [.close] ∧ items lines error <+: h.taken ∧
          h.taken <+: items lines error ++ [.finish] ∧
          (frames (emitted h.acts)).map t.meaning? = (items lines error).map some) ∧
    (∀ line message, t.frame line ≠ Relay.errorFrame message) ∧
    (∀ line, t.meaning? (t.frame line) = some (.line line)) ∧
    (∀ message, t.meaning? (Relay.errorFrame message) = some (.failure message)) ∧
    ∀ lines lines' error error', framed t lines error = framed t lines' error' →
      lines = lines' ∧ error = error' := by
  intro h
  refine ⟨?_, t.frame_ne_errorFrame, t.meaning_frame, t.meaning_errorFrame,
    fun _ _ _ _ => framed_injective t⟩
  obtain ⟨_, stands⟩ := History.stands_after label tail t first inputs
  rcases stands.speaks with fails | ⟨opens, lines, error, rest, said, ends, read, only⟩
  · rw [emitted_deeds] at fails
    exact Or.inl fails
  · rw [emitted_deeds] at said
    refine Or.inr ⟨opens, lines, error, rest, said, ends, read, only, ?_⟩
    rw [said, frames_text _ ends, meanings_framed]

end Session

end PodTail
