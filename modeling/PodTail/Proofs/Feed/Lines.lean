import PodTail.Feed
import PodTail.Proofs.Text.Lines
import PodTail.Proofs.Text.Utf8

/-!
# Lines that arrive in pieces

`Feed.cut held bytes` takes one piece of the bytes and returns the lines that end in it and what is
left to hold for the next. Two pieces are cut as one (`cut_append`), so a log in pieces is read as
the log in one piece (`linesFrom_chunks`).

`ofArrivals_delivered` is the round trip for lines that are `Clear`: no line feed in them, and no
carriage return at their end, which would be taken for a part of the ending. Written one after the
other, each with a line feed behind it, they are read as they were, in whatever pieces the bytes
arrive. It is what the agreement of a server with a memory needs. The general case is in
`PodTail.Proofs.Feed.Written`.
-/

set_option autoImplicit false

namespace PodTail

namespace Feed

/-! ## Pieces -/

/-- Cutting goes on where it stopped. -/
theorem cut_append (held a b : List UInt8) :
    cut held (a ++ b) =
      ((cut held a).1 ++ (cut (cut held a).2 b).1, (cut (cut held a).2 b).2) := by
  induction a generalizing held with
  | nil => rfl
  | cons x a ih =>
    by_cases ends : x = lineFeed
    · simp [cut, ends, ih]
    · simp [cut, ends, ih]

theorem linesFrom_chunk (held bytes : List UInt8) (rest : List Arrival) :
    linesFrom held (.chunk bytes :: rest) =
      (cut held bytes).1.map (fun l => .line (ended l)) ++ linesFrom (cut held bytes).2 rest :=
  rfl

theorem linesFrom_join (held a b : List UInt8) (rest : List Arrival) :
    linesFrom held (.chunk a :: .chunk b :: rest) = linesFrom held (.chunk (a ++ b) :: rest) := by
  simp only [linesFrom_chunk, cut_append, List.map_append, List.append_assoc]

theorem linesFrom_chunks (held : List UInt8) (pieces : List (List UInt8)) (rest : List Arrival) :
    linesFrom held (pieces.map .chunk ++ rest) = linesFrom held (.chunk pieces.flatten :: rest) := by
  induction pieces generalizing held with
  | nil => simp [linesFrom, cut]
  | cons a pieces ih =>
    rw [List.map_cons, List.cons_append, linesFrom_chunk, ih, ← linesFrom_chunk, linesFrom_join,
      List.flatten_cons]

/-! ## Lines -/

/-- `ended` on a line that is held in reverse, in terms of `Cut.less`. -/
theorem ended_reverse (line : List UInt8) :
    ended line.reverse = Utf8.repair (Cut.less carriageReturn line) := by
  cases back : line.reverse with
  | nil =>
    rw [List.reverse_eq_nil_iff.mp back]
    rfl
  | cons b before =>
    -- the reader holds a line in reverse, so its last byte comes first
    have whole : line = before.reverse ++ [b] := by
      rw [← List.reverse_reverse line, back, List.reverse_cons]
    rw [whole, Cut.less, List.getLast?_concat, List.dropLast_concat, ended, List.reverse_cons]
    by_cases mark : b = carriageReturn
    · rw [if_pos mark, if_pos (congrArg some mark)]
    · rw [if_neg mark, if_neg fun same => mark (Option.some.inj same)]

/-- A line that is read as it was written if a line feed ends it. -/
structure Clear (line : String) : Prop where
  noBreak : '\n' ∉ line.toList
  noReturn : line.toList.getLast? ≠ some '\r'

/-- The bytes of lines, each with a line feed behind it. -/
def written (lines : List String) : List UInt8 :=
  lines.flatMap fun line => Utf8.bytes line ++ [lineFeed]

/-- A line up to its line feed is cut off as a whole, with what was held before it. -/
theorem cut_line {line : List UInt8} (h : lineFeed ∉ line) (held rest : List UInt8) :
    cut held (line ++ lineFeed :: rest) =
      ((line.reverse ++ held) :: (cut [] rest).1, (cut [] rest).2) := by
  induction line generalizing held with
  | nil => simp [cut]
  | cons b line ih =>
    have ne : b ≠ lineFeed := fun same => h (same ▸ List.mem_cons_self)
    rw [List.cons_append, cut, if_neg ne, ih fun mem => h (List.mem_cons_of_mem b mem)]
    simp

theorem less_bytes {line : String} (clear : Clear line) :
    Cut.less carriageReturn (Utf8.bytes line) = Utf8.bytes line := by
  refine if_neg fun mark => clear.noReturn ?_
  obtain ⟨before, whole⟩ := List.getLast?_eq_some_iff.mp mark
  exact Utf8.getLast_of_bytes whole (by decide)

theorem ended_bytes {line : String} (clear : Clear line) :
    ended (Utf8.bytes line).reverse = line := by
  rw [ended_reverse, less_bytes clear, Utf8.repair_bytes]

/-- Clear lines, one after the other, are cut into themselves, and nothing is left. -/
theorem cut_written {lines : List String} (clear : ∀ line ∈ lines, Clear line) :
    (cut [] (written lines)).1.map ended = lines ∧ (cut [] (written lines)).2 = [] := by
  induction lines with
  | nil => exact ⟨rfl, rfl⟩
  | cons line lines ih =>
    obtain ⟨first, others⟩ := List.forall_mem_cons.mp clear
    obtain ⟨same, none⟩ := ih others
    have whole : written (line :: lines) = Utf8.bytes line ++ lineFeed :: written lines := by
      simp [written]
    have free : lineFeed ∉ Utf8.bytes line := fun mem =>
      first.noBreak (Utf8.ofNat_mem_of_mem_bytes mem (by decide))
    rw [whole, cut_line free, List.append_nil]
    exact ⟨by rw [List.map_cons, ended_bytes first, same], none⟩

/-- Clear lines are read as they were written, whatever the pieces. -/
theorem ofArrivals_delivered {lines : List String} (clear : ∀ line ∈ lines, Clear line)
    {pieces : List (List UInt8)} (delivered : pieces.flatten = written lines) :
    ofArrivals (pieces.map .chunk) = lines.map .line := by
  obtain ⟨same, none⟩ := cut_written clear
  have read : (cut [] (written lines)).1.map (fun l => Step.line (ended l)) = lines.map .line := by
    rw [← same, List.map_map, same]
    rfl
  have joined := linesFrom_chunks [] pieces []
  rw [List.append_nil, delivered, linesFrom_chunk, none, read] at joined
  exact joined.trans (List.append_nil _)

end Feed

end PodTail
