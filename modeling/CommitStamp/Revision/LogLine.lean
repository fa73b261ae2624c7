import CommitStamp.Calendar.Timestamp
import CommitStamp.Revision.Hash
import CommitStamp.Text.Cut
import CommitStamp.Text.Prefix
/-!
# Lines of the log query

The log query is asked for one line per commit: the full hash, the date, the time and the offset
from UTC, with single spaces between them. These fields take the first sixty-six characters, and
whatever follows them on the line has no meaning.

The date field is ten characters wide, but a year with a minus sign may be written with fewer or
more digits than four as long as month and day make up the width.
-/

namespace CommitStamp.LogLine

open Text

/-- The first `width` characters, all of the given kind, and what follows them. -/
def field? (width : Nat) (kind : Char → Bool) (s : List Char) : Option (List Char × List Char) :=
  let field := s.take width
  if field.length = width ∧ field.all kind then some (field, s.drop width) else none

/-- A number on one or two digits. -/
def shortNumber? (s : List Char) : Option Nat :=
  if s.length ≤ 2 then ofDecimal? s else none

/-- A year: up to four digits, or any number of digits after a minus sign. -/
def unsignedDate? (year? : List Char → Option Int) (s : List Char) : Option Date := do
  let (year, s) ← cutAt '-' s
  let (month, day) ← cutAt '-' s
  Date.of? (← year? year) (← shortNumber? month) (← shortNumber? day)

/-- A date as year, month and day with dashes between them. The year has up to four digits, or any
number of them after a minus sign. -/
def date? : List Char → Option Date
  | '-' :: s => unsignedDate? (fun digits => (ofDecimal? digits).map fun n => -Int.ofNat n) s
  | s => unsignedDate?
      (fun digits => if digits.length ≤ 4 then (ofDecimal? digits).map Int.ofNat else none) s

/-- A time as hour, minute and second with colons between them. -/
def time? (s : List Char) : Option TimeOfDay := do
  let (hour, s) ← cutAt ':' s
  let (minute, second) ← cutAt ':' s
  TimeOfDay.of? (← shortNumber? hour) (← shortNumber? minute) (← shortNumber? second)

/-- An offset as sign, two digits of hours and two of minutes, in seconds. -/
def offset? : List Char → Option Int
  | sign :: digits => do
    if digits.length ≠ 4 then none
    let hours ← ofDecimal? (digits.take 2)
    let minutes ← ofDecimal? (digits.drop 2)
    if 60 ≤ minutes then none
    let seconds : Int := hours * 3600 + minutes * 60
    if sign = '+' then return seconds else if sign = '-' then return -seconds else none
  | [] => none

/-- Date, time and offset as a timestamp. -/
def timestamp? (date time offset : List Char) : Option Timestamp := do
  Timestamp.of? (← date? date) (← time? time) (← offset? offset)

/-- The commit that a line of the log query names, with its time; nothing for any other line. -/
def parse? (line : List Char) : Option (CommitHash × Timestamp) := do
  let (hash, s) ← field? hashLength isHexDigit line
  let s ← after? [' '] s
  let (date, s) ← field? 10 (fun c => isDigit c || c == '-') s
  let s ← after? [' '] s
  let (time, s) ← field? 8 (fun c => isDigit c || c == ':') s
  let s ← after? [' '] s
  let (offset, _) ← field? 5 (fun c => isDigit c || c == '+' || c == '-') s
  return (← CommitHash.ofDigits? hash, ← timestamp? date time offset)

end CommitStamp.LogLine
