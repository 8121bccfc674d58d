import PodTail.Proofs.Feed.Repair

/-!
# Lines that are written and read back

A `Document` is a list of lines, each with a break behind it, and perhaps a last one without. The
breaks are a line feed, and a carriage return with a line feed. `written_lines_come_back` is the
round trip: the bytes of its text, in any pieces, are read as its lines, blank ones included. The
text is UTF-8, so `Utf8.repair` changes nothing of it, and a `U+FFFD` that was written is read as
one.

There is one way to lose something. A carriage return at the end of a line, with a line feed alone
behind it, is taken for a part of the break. `Document.Safe` excludes this, and is necessary:
`comesBack` says what comes back of a line in any case, and it is the line itself exactly if the
line is safe (`comesBack_eq_iff`).
-/

set_option autoImplicit false

namespace PodTail

namespace Feed

/-- What ends a line. -/
inductive Break where
  | feed
  | returnFeed
  deriving DecidableEq, Repr

def Break.text : Break → String
  | feed => "\n"
  | returnFeed => "\r\n"

/-- Lines with their breaks, and what is left without one. -/
structure Document where
  lines : List (String × Break)
  rest : String
  unbroken : ∀ line ∈ lines, '\n' ∉ line.1.toList
  restUnbroken : '\n' ∉ rest.toList

/-- What is read of a line with its break. -/
def comesBack (line : String × Break) : String :=
  match line.2 with
  | .feed => String.ofList (Cut.less '\r' line.1.toList)
  | .returnFeed => line.1

namespace Document

/-- The text that is written. -/
def text (d : Document) : String :=
  d.lines.foldr (fun line below => line.1 ++ line.2.text ++ below) d.rest

/-- The line without a break, if there is anything of it. -/
def last (d : Document) : List String :=
  if d.rest = "" then [] else [d.rest]

/-- The lines that are written. -/
def texts (d : Document) : List String :=
  d.lines.map (·.1) ++ d.last

/-- The lines that are read. -/
def back (d : Document) : List String :=
  d.lines.map comesBack ++ d.last

/-- No line that ends in a carriage return has a line feed alone for its break. -/
def Safe (d : Document) : Prop :=
  ∀ line ∈ d.lines, line.2 = .feed → line.1.toList.getLast? ≠ some '\r'

end Document

/-! ## What the breaks take away -/

theorem comesBack_eq_iff {line : String × Break} :
    comesBack line = line.1 ↔ (line.2 = .feed → line.1.toList.getLast? ≠ some '\r') := by
  obtain ⟨text, ending⟩ := line
  cases ending with
  | feed =>
    have lists : String.ofList (Cut.less '\r' text.toList) = text ↔
        Cut.less '\r' text.toList = text.toList := by
      rw [← String.toList_inj, String.toList_ofList]
    simpa [comesBack, Cut.less_eq_self_iff] using lists
  | returnFeed => simp [comesBack]

theorem Document.back_eq_texts_iff (d : Document) : d.back = d.texts ↔ d.Safe := by
  have each : d.lines.map comesBack = d.lines.map (·.1) ↔ d.Safe := by
    rw [List.map_inj_left]
    exact forall₂_congr fun line _ => comesBack_eq_iff
  rw [Document.back, Document.texts, List.append_cancel_right_eq, each]

/-! ## The lines of a text -/

/-- A text is read as its lines, however its bytes arrive. -/
theorem ofArrivals_bytes {text : String} {pieces : List (List UInt8)}
    (delivered : pieces.flatten = Utf8.bytes text) :
    ofArrivals (pieces.map .chunk) =
      (Cut.lines '\n' '\r' text.toList).map fun line => .line (String.ofList line) := by
  have lines := lines_repair (Utf8.bytes text)
  rw [Utf8.repair_bytes] at lines
  rw [ofArrivals_lines, delivered, lines, List.map_map]
  exact List.map_congr_left fun line _ => congrArg Step.line String.ofList_toList.symm

/-- The step of `lines_text`: the first line is cut off with its break, whichever break it is. -/
theorem lines_break {line : String × Break} (unbroken : '\n' ∉ line.1.toList) (below : String) :
    Cut.lines '\n' '\r' (line.1 ++ line.2.text ++ below).toList =
      (comesBack line).toList :: Cut.lines '\n' '\r' below.toList := by
  obtain ⟨text, ending⟩ := line
  cases ending with
  | feed =>
    have whole : (text ++ Break.feed.text ++ below).toList = text.toList ++ '\n' :: below.toList := by
      simp [Break.text]
    rw [whole, Cut.lines_append unbroken, comesBack, String.toList_ofList]
  | returnFeed =>
    have whole : (text ++ Break.returnFeed.text ++ below).toList =
        (text.toList ++ ['\r']) ++ '\n' :: below.toList := by
      simp [Break.text]
    -- the carriage return of the break stands right before the line feed, and `less` takes it away
    have unbroken' : '\n' ∉ text.toList ++ ['\r'] := by simpa using unbroken
    rw [whole, Cut.lines_append unbroken', Cut.less_concat, comesBack]

/-- The lines of the written text, by induction on the document's lines. -/
theorem lines_text (d : Document) :
    Cut.lines '\n' '\r' d.text.toList = d.back.map String.toList := by
  obtain ⟨lines, rest, unbroken, restUnbroken⟩ := d
  induction lines with
  | nil =>
    simp only [Document.text, Document.back, Document.last, List.foldr_nil,
      Cut.lines_of_not_mem restUnbroken, String.toList_eq_nil_iff]
    by_cases none : rest = "" <;> simp [none]
  | cons line lines ih =>
    obtain ⟨here, below⟩ := List.forall_mem_cons.mp unbroken
    exact (lines_break here _).trans (congrArg ((comesBack line).toList :: ·) (ih below))

/-! ## Reading them back -/

/-- **Lines that are written come back.** The bytes of a document's text arrive in any pieces. What
    is read are the document's lines, each once and in their order, exactly if the document is
    `Safe`. In any case a line that is not safe comes back without its last carriage return, and the
    others come back unchanged. Then the reader has come to the end. -/
theorem written_lines_come_back (d : Document) (pieces : List (List UInt8))
    (delivered : pieces.flatten = Utf8.bytes d.text) :
    (ofArrivals (pieces.map .chunk) = d.texts.map .line ↔ d.Safe) ∧
      ofArrivals (pieces.map .chunk) = d.back.map .line ∧
      ∀ limit now, watch limit now (ofArrivals (pieces.map .chunk)) =
        (d.back.map fun text => (now, .line text), true) := by
  have read : ofArrivals (pieces.map .chunk) = d.back.map .line := by
    rw [ofArrivals_bytes delivered, lines_text, List.map_map]
    exact List.map_congr_left fun line _ => congrArg Step.line String.ofList_toList
  refine ⟨?_, read, fun limit now => ?_⟩
  · rw [read, List.map_inj_right fun _ _ => Step.line.inj, d.back_eq_texts_iff]
  · have watched := watch_lines limit now d.back []
    rwa [List.append_nil, ← read, watch, List.append_nil] at watched

/-- A blank line, a line with a carriage return and a `U+FFFD` in it, a line that ends in a carriage
    return, and one that does so and has not ended. -/
def marked : Document where
  lines := [("", .feed), ("a\rb\uFFFD", .feed), ("c\r", .returnFeed), ("", .returnFeed)]
  rest := "d\r"
  unbroken := by decide
  restUnbroken := by decide

/-- `written_lines_come_back` on `marked`, with pieces that part a character and the two bytes of a
    break. -/
theorem marked_comes_back :
    marked.Safe ∧
      [[10, 97, 13, 98, 0xEF], [0xBF, 0xBD, 10, 99, 13, 13], [10, 13, 10, 100], [13]].flatten =
        Utf8.bytes marked.text ∧
      ofArrivals ([[10, 97, 13, 98, 0xEF], [0xBF, 0xBD, 10, 99, 13, 13], [10, 13, 10, 100], [13]].map
          .chunk) =
        [.line "", .line "a\rb\uFFFD", .line "c\r", .line "", .line "d\r"] := by
  have safe : marked.Safe := by simp [Document.Safe, marked]
  have delivered :
      [[10, 97, 13, 98, 0xEF], [0xBF, 0xBD, 10, 99, 13, 13], [10, 13, 10, 100], [13]].flatten =
        Utf8.bytes marked.text := by decide
  exact ⟨safe, delivered, (written_lines_come_back marked _ delivered).1.mpr safe⟩

end Feed

end PodTail
