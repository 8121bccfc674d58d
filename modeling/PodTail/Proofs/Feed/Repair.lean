import PodTail.Proofs.Feed.Pieces
import PodTail.Proofs.Text.Repair

/-!
# Wrong bytes in a log

A log is cut into lines first, and each line is repaired for itself. `lines_repair` says that the
two operations commute: repairing the whole log and cutting the text gives the same lines. The
reason is that a line feed and a carriage return are bytes of ASCII. `Utf8.repair` reads such a byte
as itself and starts afresh behind it (`Utf8.toList_repair_ascii`), so the text has its line feeds
exactly where the bytes have them (`count_repair`).

`wrong_bytes_keep_to_their_line` draws the conclusion. A line with wrong bytes does not swallow its
line feed, there are neither more lines nor fewer, and the lines around it are read as if it were
not there. The proofs go by `Cut.pieces`, one line at a time.
-/

set_option autoImplicit false

namespace PodTail

namespace Feed

/-! ## Cutting what has been repaired -/

theorem lineFeed_ascii : lineFeed.toNat < 0x80 := by decide

theorem carriageReturn_ascii : carriageReturn.toNat < 0x80 := by decide

theorem not_mem_repair {piece : List UInt8} (free : lineFeed ∉ piece) :
    '\n' ∉ (Utf8.repair piece).toList :=
  fun mem => free (Utf8.mem_of_mem_repair (by decide) mem)

theorem toList_repair_lineFeed (before rest : List UInt8) :
    (Utf8.repair (before ++ lineFeed :: rest)).toList =
      (Utf8.repair before).toList ++ '\n' :: (Utf8.repair rest).toList :=
  Utf8.toList_repair_ascii before lineFeed_ascii rest

/-- A line ends in a carriage return exactly if its repaired text does, so removing it commutes with
    the repair. -/
theorem less_repair (line : List UInt8) :
    Cut.less '\r' (Utf8.repair line).toList =
      (Utf8.repair (Cut.less carriageReturn line)).toList := by
  by_cases mark : line.getLast? = some carriageReturn
  · obtain ⟨before, rfl⟩ := List.getLast?_eq_some_iff.mp mark
    have read : (Utf8.repair (before ++ [carriageReturn])).toList =
        (Utf8.repair before).toList ++ ['\r'] :=
      Utf8.toList_repair_ascii before carriageReturn_ascii []
    rw [read, Cut.less, Cut.less, if_pos List.getLast?_concat, if_pos List.getLast?_concat,
      List.dropLast_concat, List.dropLast_concat]
  · have other : (Utf8.repair line).toList.getLast? ≠ some '\r' :=
      fun last => mark (Utf8.getLast_of_repair (by decide) last)
    rw [Cut.less, Cut.less, if_neg mark, if_neg other]

/-- **Cutting commutes with repairing**: the lines of the repaired text are the repaired lines. -/
theorem lines_repair (bytes : List UInt8) :
    Cut.lines '\n' '\r' (Utf8.repair bytes).toList =
      (Cut.lines lineFeed carriageReturn bytes).map fun line => (Utf8.repair line).toList := by
  induction bytes using Cut.pieces lineFeed with
  | last piece free =>
    -- a piece without a line feed is repaired to one, which is empty only if the piece is
    rw [Cut.lines_of_not_mem free, Cut.lines_of_not_mem (not_mem_repair free)]
    by_cases none : piece = []
    · rw [if_pos none, if_pos (Utf8.toList_repair_eq_nil.mpr none)]
      rfl
    · rw [if_neg none, if_neg fun empty => none (Utf8.toList_repair_eq_nil.mp empty)]
      rfl
  | more piece rest free ih =>
    rw [toList_repair_lineFeed, Cut.lines_append free, Cut.lines_append (not_mem_repair free), ih,
      less_repair]
    rfl

theorem count_repair (bytes : List UInt8) :
    (Utf8.repair bytes).toList.count '\n' = bytes.count lineFeed := by
  induction bytes using Cut.pieces lineFeed with
  | last piece free =>
    rw [List.count_eq_zero_of_not_mem free, List.count_eq_zero_of_not_mem (not_mem_repair free)]
  | more piece rest free ih =>
    rw [toList_repair_lineFeed, List.count_append, List.count_append, List.count_cons_self,
      List.count_cons_self, ih, List.count_eq_zero_of_not_mem free,
      List.count_eq_zero_of_not_mem (not_mem_repair free)]

/-! ## One line among others -/

theorem ofArrivals_chunk (bytes : List UInt8) :
    ofArrivals [.chunk bytes] =
      (Cut.lines lineFeed carriageReturn bytes).map fun line => .line (Utf8.repair line) := by
  have read := ofArrivals_lines [bytes]
  rwa [List.flatten_cons, List.flatten_nil, List.append_nil] at read

/-- A line that has ended is read by itself, whatever it holds, and so is what is before and behind
    it. -/
theorem ofArrivals_line {before line : List UInt8} (closed : Cut.Closed lineFeed before)
    (free : lineFeed ∉ line) (after : List UInt8) :
    ofArrivals [.chunk (before ++ (line ++ lineFeed :: after))] = ofArrivals [.chunk before] ++
      .line (Utf8.repair (Cut.less carriageReturn line)) :: ofArrivals [.chunk after] := by
  simp only [ofArrivals_chunk, Cut.lines_closed closed, Cut.lines_append free, List.map_append,
    List.map_cons]

theorem not_mem_bytes {line : String} (free : '\n' ∉ line.toList) : lineFeed ∉ Utf8.bytes line :=
  fun mem => free (Utf8.ofNat_mem_of_mem_bytes mem lineFeed_ascii)

/-- **Wrong bytes affect only their own line.** Bytes arrive in any pieces. What is read are the
    lines of the text that `Utf8.repair` makes of all of them together: each character for its
    bytes, and `U+FFFD` for each maximal piece that is no character (`Utf8.Pieced`). The text has as
    many line feeds as the bytes have, and each of them parts it into the repair of the bytes before
    it and of those behind it. So a line that ends is read by itself, whatever bytes it holds; and a
    line that is text comes out as it was written, whatever bytes there are before it and behind it.
    -/
theorem wrong_bytes_keep_to_their_line (pieces : List (List UInt8)) :
    let bytes := pieces.flatten
    let text := (Utf8.repair bytes).toList
    ofArrivals (pieces.map .chunk) =
        (Cut.lines '\n' '\r' text).map (fun line => .line (String.ofList line)) ∧
      (text = (Utf8.decode bytes).map (·.getD '\uFFFD') ∧
        ∀ out, Utf8.Pieced bytes out ↔ out = Utf8.decode bytes) ∧
      text.count '\n' = bytes.count lineFeed ∧
      (∀ before after, Utf8.repair (before ++ lineFeed :: after) =
        Utf8.repair before ++ "\n" ++ Utf8.repair after) ∧
      (∀ before line after, Cut.Closed lineFeed before → lineFeed ∉ line →
        ofArrivals [.chunk (before ++ (line ++ lineFeed :: after))] = ofArrivals [.chunk before] ++
          .line (Utf8.repair (Cut.less carriageReturn line)) :: ofArrivals [.chunk after]) ∧
      ∀ before (line : String) after, Cut.Closed lineFeed before → '\n' ∉ line.toList →
        (line.toList.getLast? ≠ some '\r' →
          ofArrivals [.chunk (before ++ (Utf8.bytes line ++ lineFeed :: after))] =
            ofArrivals [.chunk before] ++ .line line :: ofArrivals [.chunk after]) ∧
        ofArrivals [.chunk (before ++ (Utf8.bytes line ++ carriageReturn :: lineFeed :: after))] =
          ofArrivals [.chunk before] ++ .line line :: ofArrivals [.chunk after] ∧
        (line ≠ "" → ofArrivals [.chunk (before ++ Utf8.bytes line)] =
          ofArrivals [.chunk before] ++ [.line line]) := by
  intro bytes text
  refine ⟨?_, ⟨Utf8.toList_repair bytes, fun out => Utf8.pieced_iff⟩, count_repair bytes, ?_,
    fun before line after closed free => ofArrivals_line closed free after, ?_⟩
  · rw [lines_repair, ofArrivals_lines, List.map_map]
    exact List.map_congr_left fun line _ => congrArg Step.line String.ofList_toList.symm
  · intro before after
    rw [← String.toList_inj, toList_repair_lineFeed]
    simp
  · intro before line after closed free
    -- ended by a line feed, by a carriage return and a line feed, and not ended
    refine ⟨fun noReturn => ?_, ?_, fun some => ?_⟩
    · rw [ofArrivals_line closed (not_mem_bytes free), less_bytes ⟨free, noReturn⟩,
        Utf8.repair_bytes]
    · have free' : lineFeed ∉ Utf8.bytes line ++ [carriageReturn] :=
        fun mem => (List.mem_append.mp mem).elim (not_mem_bytes free) (by decide)
      have read := ofArrivals_line closed free' after
      rwa [Cut.less_concat, Utf8.repair_bytes, List.append_assoc] at read
    · have filled : Utf8.bytes line ≠ [] := fun empty => some (Utf8.bytes_injective empty)
      rw [ofArrivals_chunk, ofArrivals_chunk, Cut.lines_closed closed,
        Cut.lines_of_not_mem (not_mem_bytes free), if_neg filled, List.map_append, List.map_singleton,
        Utf8.repair_bytes]

end Feed

end PodTail
