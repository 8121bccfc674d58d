import PodTail.Text.Utf8

/-!
# Log feeds

A log arrives as bytes, in chunks and over time (`Arrival`), and is read as lines (`Feed.Step`).
`Feed.ofArrivals` makes the steps from the arrivals; `Feed.watch` reads them to the end or to a time
limit.

A line ends at a line feed, and one carriage return right before it belongs to the ending (`cut`,
`ended`). What is left when the log ends is a last line if it is not empty, and keeps its carriage
return. A read error drops the line it comes in, and nothing follows it. Bytes that are no UTF-8 are
repaired line by line. Where the chunks are divided makes no difference.
-/

set_option autoImplicit false

namespace PodTail

/-- What comes next on the wire; after the last the log has ended. -/
inductive Arrival where
  | chunk (bytes : List UInt8)
  | failure (reason : String)
  /-- Nothing for so many milliseconds, from when the reader gets here. -/
  | wait (ms : Nat)
  /-- Nothing ever again. -/
  | silence
  /-- The reader's session is called off at this point of the reading. -/
  | cancel
  deriving DecidableEq, Repr

namespace Feed

/-- What a reader of lines meets next; after the last the log has ended. -/
inductive Step where
  | line (text : String)
  | failure (reason : String)
  | wait (ms : Nat)
  | silence
  | cancel
  deriving DecidableEq, Repr

/-- The byte that ends a line. -/
def lineFeed : UInt8 := 10

/-- The byte that may stand before the end of a line. -/
def carriageReturn : UInt8 := 13

/-- The lines that some bytes end, after `held`, the bytes of the line begun before them (last byte
first); and the bytes of the line they leave begun. -/
def cut (held : List UInt8) : List UInt8 → List (List UInt8) × List UInt8
  | [] => ([], held)
  | b :: rest =>
    if b = lineFeed then
      let (lines, left) := cut [] rest
      (held :: lines, left)
    else cut (b :: held) rest

/-- The text of an ended line, from its bytes, last byte first. -/
def ended : List UInt8 → String
  | [] => ""
  | b :: rest =>
    if b = carriageReturn then Utf8.repair rest.reverse else Utf8.repair (b :: rest).reverse

/-- The lines of what arrives, after the bytes of a line begun before (last byte first). -/
def linesFrom (held : List UInt8) : List Arrival → List Step
  | [] => if held.isEmpty then [] else [.line (Utf8.repair held.reverse)]
  | .chunk bytes :: rest =>
    let (lines, left) := cut held bytes
    lines.map (fun l => .line (ended l)) ++ linesFrom left rest
  | .failure reason :: _ => [.failure reason]
  | .wait ms :: rest => .wait ms :: linesFrom held rest
  | .silence :: _ => [.silence]
  | .cancel :: rest => .cancel :: linesFrom held rest

/-- The lines of what arrives. -/
def ofArrivals (arrivals : List Arrival) : List Step :=
  linesFrom [] arrivals

/-! ## Reading to the end -/

/-- A line or a read error, as it comes out of a log. -/
inductive Reading where
  | line (text : String)
  | failure (reason : String)
  deriving DecidableEq, Repr

/-- Reads a log from the time `now` on and not past `limit`: everything that comes, with its time,
and whether the end came too. A read error is an end. -/
def watch (limit now : Nat) : List Step → List (Nat × Reading) × Bool
  | [] => ([], true)
  | .line text :: rest =>
    let (readings, ended) := watch limit now rest
    ((now, .line text) :: readings, ended)
  | .failure reason :: _ => ([(now, .failure reason)], true)
  | .wait ms :: rest => if now + ms ≤ limit then watch limit (now + ms) rest else ([], false)
  | .silence :: _ => ([], false)
  | .cancel :: rest => watch limit now rest

end Feed

/-- A log to be read line by line. -/
abbrev Feed := List Feed.Step

end PodTail
