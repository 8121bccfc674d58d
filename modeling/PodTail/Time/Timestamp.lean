import PodTail.Pod
import PodTail.Text.Blank
import PodTail.Time.Calendar

/-!
# Timestamps

`Timestamp.read` reads an instant such as `2024-05-01T12:00:00+00:00`, and `Timestamp.text?` writes
one.

The reader is lenient about the form. Numbers may lack leading zeros, blanks may stand before
numbers and dividers, a year with a sign may have any number of digits, letters may be in lower
case, the offset may lack its colon, and any fraction of a second is dropped. An inserted second is
`:60`, and stays one.

It is strict about the meaning. Each number is checked as soon as it is read, the date at the end,
and after it the date in UTC, so the earlier one of two faults is reported.

The writer has one form, with the offset zero and four digits for the year. An instant whose year
does not have four digits has no text.
-/

set_option autoImplicit false

namespace PodTail

namespace Timestamp

/-- Why a text is no instant. -/
inductive Fault where
  | outOfRange
  | badCharacter
  | tooShort
  | tooLong
  /-- A local time whose instant has no date. -/
  | undated
  deriving DecidableEq, Repr

/-- The words for a fault. -/
def Fault.message : Fault → String
  | .outOfRange => "input is out of range"
  | .badCharacter => "input contains invalid characters"
  | .tooShort => "premature end of input"
  | .tooLong => "trailing input"
  | .undated => "no possible date and time matching input"

/-- Reads a number of at least one digit, and of at most so many where there is a limit. -/
def digits (most : Option Nat) (cs : List Char) : Except Fault (Int × List Char) :=
  let within := match most with | some n => cs.take n | none => cs
  let read := within.takeWhile Char.isDigit
  match read, cs with
  | [], [] => .error .tooShort
  | [], _ => .error .badCharacter
  | read, cs =>
    .ok (read.foldl (fun (v : Int) c => v * 10 + (c.toNat - 48 : Nat)) 0, cs.drop read.length)

/-- Reads a number of one or two digits between two bounds, behind blanks. -/
def number (least greatest : Int) (cs : List Char) : Except Fault (Int × List Char) := do
  let (n, cs) ← digits (some 2) (Blank.skip cs)
  if least ≤ n ∧ n ≤ greatest then .ok (n, cs) else .error .outOfRange

/-- Reads a year, behind blanks. -/
def year (cs : List Char) : Except Fault (Int × List Char) := do
  let (n, cs) ←
    match Blank.skip cs with
    | '-' :: rest => (digits none rest).map fun (n, rest) => (-n, rest)
    | '+' :: rest => digits none rest
    | cs => digits (some 4) cs
  if -2147483648 ≤ n ∧ n ≤ 2147483647 then .ok (n, cs) else .error .outOfRange

/-- Reads one of some characters. -/
def oneOf (allowed : List Char) : List Char → Except Fault (List Char)
  | [] => .error .tooShort
  | c :: rest => if c ∈ allowed then .ok rest else .error .badCharacter

/-- Reads what divides two numbers, behind blanks. -/
def divider (c : Char) (cs : List Char) : Except Fault (List Char) :=
  oneOf [c] (Blank.skip cs)

/-- Reads a fraction, if there is one. -/
def fraction : List Char → Except Fault (List Char)
  | '.' :: rest => (digits none rest).map (·.2)
  | cs => .ok cs

/-- Reads two digits, whatever they are. A last character of several bytes is not too short to be
two digits, but no digit. -/
def twoDigits : List Char → Except Fault (Int × List Char)
  | a :: b :: rest =>
    if a.isDigit ∧ b.isDigit then .ok ((a.toNat - 48 : Nat) * 10 + (b.toNat - 48 : Nat), rest)
    else .error .badCharacter
  | [a] => .error (if a.utf8Size = 1 then .tooShort else .badCharacter)
  | [] => .error .tooShort

/-- Whether a text starts with the name of the offset zero. -/
def namesZero (cs : List Char) : Bool :=
  (cs.take 3).map Char.toUpper = ['U', 'T', 'C']

/-- Reads an offset from UTC, in seconds, behind blanks. -/
def offset (cs : List Char) : Except Fault (Int × List Char) := do
  let cs := Blank.skip cs
  if namesZero cs then .ok (0, cs.drop 3)
  else
    match cs with
    | [] => .error .tooShort
    | c :: rest =>
      if c = 'Z' ∨ c = 'z' then .ok (0, rest)
      else do
        let toward : Int ←
          if c = '+' then .ok 1 else if c = '-' ∨ c = '−' then .ok (-1) else .error .badCharacter
        let (hours, rest) ← twoDigits rest
        let (minutes, rest) ← twoDigits (rest.dropWhile fun c => c = ':' || Blank.isBlank c)
        if 60 ≤ minutes then .error .outOfRange
        else .ok (toward * (hours * 3600 + minutes * 60), rest)

/-- The first year that has dates. -/
def firstYear : Int := -262143

/-- The last year that has dates. -/
def lastYear : Int := 262142

/-- Whether a year has dates. -/
def isDated (year : Int) : Bool :=
  firstYear ≤ year && year ≤ lastYear

/-- Whether a day has a date. -/
def isDatedDay (day : Int) : Bool :=
  Calendar.Date.toDay ⟨firstYear, 1, 1⟩ ≤ day && day ≤ Calendar.Date.toDay ⟨lastYear, 12, 31⟩

/-- The second that is shown for an instant: an inserted second is shown with the one before it. -/
def shown (i : Instant) : Int :=
  if i.inserted then i.seconds - 1 else i.seconds

/-- Reads an instant. -/
def read (s : String) : Except Fault Instant := do
  let (year, cs) ← year s.toList
  let cs ← divider '-' cs
  let (month, cs) ← number 1 12 cs
  let cs ← divider '-' cs
  let (day, cs) ← number 1 31 cs
  let cs ← oneOf ['T', 't', ' '] cs
  let (hour, cs) ← number 0 23 cs
  let cs ← divider ':' cs
  let (minute, cs) ← number 0 59 cs
  let cs ← divider ':' cs
  let (second, cs) ← number 0 60 cs
  let cs ← fraction cs
  let (offset, cs) ← offset cs
  if !(Blank.skip cs).isEmpty then .error .tooLong
  else if !isDated year ∨ Calendar.daysIn year month < day ∨ 86400 ≤ offset ∨ offset ≤ -86400 then
    .error .outOfRange
  else
    let i : Instant :=
      ⟨Calendar.Date.toDay ⟨year, month, day⟩ * 86400 + hour * 3600 + minute * 60 + second - offset,
        second = 60⟩
    if isDatedDay (shown i / 86400) then .ok i else .error .undated

/-- A number in at least so many digits. -/
def padded (width : Nat) (n : Int) : String :=
  let shown := toString n.toNat
  String.ofList (List.replicate (width - shown.length) '0') ++ shown

/-- Writes an instant. -/
def text? (i : Instant) : Option String :=
  let date := Calendar.Date.ofDay (shown i / 86400)
  let time := shown i % 86400
  let second := if i.inserted then 60 else time % 60
  if 0 ≤ date.year ∧ date.year ≤ 9999 then
    some (padded 4 date.year ++ "-" ++ padded 2 date.month ++ "-" ++ padded 2 date.day ++ "T"
      ++ padded 2 (time / 3600) ++ ":" ++ padded 2 (time / 60 % 60) ++ ":" ++ padded 2 second
      ++ "+00:00")
  else none

end Timestamp

end PodTail
