import PodTail.Proofs.Feed.Lines

/-!
# However the bytes arrive

The reader of a log (`Feed.linesFrom`) is a loop over pieces that holds the bytes of a line which
has not ended. The specification has neither pieces nor held bytes: `Cut.ended` and `Cut.left` of
all bytes together. `cut_eq` is the invariant that connects them, with the held bytes put in front
of those that arrive, and `ofArrivals_chunks` applies it to a whole list of pieces.

What follows the last piece decides about the line that has not ended: at the end of the log it is
read (`ofArrivals_lines`), and at a failure it is lost (`ofArrivals_failing`). Waits and calls to
stop between the pieces do not change the lines (`linesFrom_unpaused`), since they leave the held
bytes alone.

`read_whatever_the_pieces` puts this together. Pieces may begin and end anywhere, also in the middle
of a character and between the two bytes of an ending.
-/

set_option autoImplicit false

namespace PodTail

namespace Feed

/-! ## Bytes that are kept -/

/-- One piece: the reader finds the lines of the held bytes and the piece together, and holds what
    is left of them. The held bytes are in reverse, and have no line feed in them. -/
theorem cut_eq {held : List UInt8} (free : lineFeed ∉ held) (bytes : List UInt8) :
    cut held bytes = ((Cut.ended lineFeed (held.reverse ++ bytes)).map List.reverse,
      (Cut.left lineFeed (held.reverse ++ bytes)).reverse) := by
  induction bytes generalizing held with
  | nil =>
    have free' : lineFeed ∉ held.reverse := by simpa using free
    simp [cut, free']
  | cons b bytes ih =>
    by_cases ends : b = lineFeed
    · have free' : lineFeed ∉ held.reverse := by simpa using free
      -- the line is complete, and the reader goes on with nothing held
      rw [cut, if_pos ends, ih List.not_mem_nil, ends, Cut.ended_append free', Cut.left_append free']
      simp
    · have longer : lineFeed ∉ b :: held := by simp [free, Ne.symm ends]
      rw [cut, if_neg ends, ih longer, List.reverse_cons, List.append_assoc]
      rfl

/-! ## Bytes in pieces -/

/-- The texts of the lines that some bytes end. -/
def endedTexts (bytes : List UInt8) : List String :=
  (Cut.ended lineFeed bytes).map fun line => Utf8.repair (Cut.less carriageReturn line)

/-- Some pieces, and whatever comes behind them: the ended lines are read, and what is left is held.
    -/
theorem ofArrivals_chunks (pieces : List (List UInt8)) (rest : List Arrival) :
    ofArrivals (pieces.map .chunk ++ rest) = (endedTexts pieces.flatten).map .line ++
      linesFrom (Cut.left lineFeed pieces.flatten).reverse rest := by
  rw [ofArrivals, linesFrom_chunks, linesFrom_chunk, cut_eq List.not_mem_nil]
  simp [endedTexts, ended_reverse, Function.comp_def]

theorem linesFrom_nil (line : List UInt8) :
    linesFrom line.reverse [] = (if line = [] then [] else [.line (Utf8.repair line)]) := by
  simp [linesFrom, List.isEmpty_iff]

/-- If nothing comes behind the pieces, the line that has not ended is read as well. -/
theorem ofArrivals_lines (pieces : List (List UInt8)) :
    ofArrivals (pieces.map .chunk) =
      (Cut.lines lineFeed carriageReturn pieces.flatten).map fun line => .line (Utf8.repair line) := by
  have read := ofArrivals_chunks pieces []
  rw [List.append_nil, linesFrom_nil] at read
  rw [read, Cut.lines, List.map_append, endedTexts, List.map_map, List.map_map, Cut.last]
  split <;> rfl

/-- If a failure comes behind them, that line is lost. -/
theorem ofArrivals_failing (pieces : List (List UInt8)) (reason : String) (later : List Arrival) :
    ofArrivals (pieces.map .chunk ++ .failure reason :: later) =
      (endedTexts pieces.flatten).map .line ++ [.failure reason] :=
  ofArrivals_chunks pieces _

/-! ## What comes between the pieces -/

/-- A wait, or a call to stop. -/
def Step.isPause : Step → Bool
  | .wait _ => true
  | .cancel => true
  | _ => false

/-- A wait, or a call to stop. -/
def isPause : Arrival → Bool
  | .wait _ => true
  | .cancel => true
  | _ => false

/-- Without the pauses, the steps are those of the arrivals without the pauses. -/
theorem linesFrom_unpaused (held : List UInt8) (arrivals : List Arrival) :
    (linesFrom held arrivals).filter (!·.isPause) =
      linesFrom held (arrivals.filter (!isPause ·)) := by
  induction arrivals generalizing held with
  | nil =>
    simp only [List.filter_nil, linesFrom]
    split <;> rfl
  | cons a arrivals ih =>
    cases a with
    | chunk bytes =>
      have unpaused : ∀ lines : List (List UInt8),
          (lines.map fun l => Step.line (ended l)).filter (!·.isPause) =
            lines.map fun l => .line (ended l) :=
        fun lines => List.filter_eq_self.mpr (by simp [Step.isPause])
      rw [linesFrom_chunk, List.filter_append, unpaused, ih, List.filter_cons_of_pos rfl,
        linesFrom_chunk]
    | failure reason => rfl
    | wait ms => exact ih held
    | silence => rfl
    | cancel => exact ih held

/-! ## Reading to the end -/

theorem watch_lines (limit now : Nat) (texts : List String) (rest : List Step) :
    watch limit now (texts.map .line ++ rest) =
      (texts.map (fun text => (now, .line text)) ++ (watch limit now rest).1,
        (watch limit now rest).2) := by
  induction texts with
  | nil => rfl
  | cons text texts ih => simp [watch, ih]

/-- **The lines of a log do not depend on how its bytes arrive.** Bytes arrive in any pieces. For
    each line feed among them, the bytes since the line feed before it are read as a line, without a
    carriage return right before the line feed, and repaired. If the log ends there, what is left is
    a line as well, with its carriage return, unless it is empty. If the log fails there, what is
    left is lost, the failure is read, and nothing behind it. Either way the reader (`watch`) comes
    to the end. Other pieces of the same bytes are read alike, whatever comes behind them; and so
    are pieces with waits and calls to stop in between, except for these. -/
theorem read_whatever_the_pieces (pieces : List (List UInt8)) :
    let bytes := pieces.flatten
    let lines := Cut.ended lineFeed bytes
    let rest := Cut.left lineFeed bytes
    let texts := lines.map fun line => Utf8.repair (Cut.less carriageReturn line)
    let last := if rest = [] then [] else [Utf8.repair rest]
    (lines.flatMap (· ++ [lineFeed]) ++ rest = bytes ∧ (∀ line ∈ lines, lineFeed ∉ line) ∧
        lineFeed ∉ rest ∧ lines.length = bytes.count lineFeed) ∧
      ofArrivals (pieces.map .chunk) = (texts ++ last).map .line ∧
      (∀ reason later, ofArrivals (pieces.map .chunk ++ .failure reason :: later) =
        texts.map .line ++ [.failure reason]) ∧
      (∀ limit now, watch limit now (ofArrivals (pieces.map .chunk)) =
          ((texts ++ last).map fun text => (now, .line text), true) ∧
        ∀ reason later, watch limit now (ofArrivals (pieces.map .chunk ++ .failure reason :: later)) =
          (texts.map (fun text => (now, .line text)) ++ [(now, .failure reason)], true)) ∧
      (∀ pieces' : List (List UInt8), pieces'.flatten = bytes → ∀ later,
        ofArrivals (pieces'.map .chunk ++ later) = ofArrivals (pieces.map .chunk ++ later)) ∧
      ∀ arrivals, (ofArrivals arrivals).filter (!·.isPause) =
        ofArrivals (arrivals.filter (!isPause ·)) := by
  intro bytes lines rest texts last
  have ending : ofArrivals (pieces.map .chunk) = (texts ++ last).map .line := by
    rw [ofArrivals_lines, Cut.lines, Cut.last, List.map_append, List.map_append, List.map_map,
      List.map_map]
    congr 1
    show (if rest = [] then [] else [rest]).map _ = last.map Step.line
    unfold last
    split <;> rfl
  refine ⟨⟨Cut.ended_left lineFeed bytes, fun line => Cut.not_mem_of_mem_ended,
    Cut.not_mem_left bytes, Cut.length_ended lineFeed bytes⟩, ending, ofArrivals_failing pieces,
    fun limit now => ⟨?_, fun reason later => ?_⟩, fun pieces' same later => ?_,
    linesFrom_unpaused []⟩
  · have watched := watch_lines limit now (texts ++ last) []
    rwa [List.append_nil, ← ending, watch, List.append_nil] at watched
  · rw [ofArrivals_failing]
    exact watch_lines limit now _ [.failure reason]
  · rw [ofArrivals_chunks, ofArrivals_chunks, same]

end Feed

end PodTail
