import CommitStamp.Calendar.Timestamp
import CommitStamp.Text.Numeral
/-!
# Written dates and times

The fields of a timestamp as text: four digits for a year of our common numbering, a sign before any
other, two digits for the rest, and the offset from UTC as sign, hours and minutes.
-/

namespace CommitStamp

open Text

/-- Two digits of a field. -/
def twoDigits (n : Nat) : List Char :=
  decimal 2 n

/-- A year `0` to `9999` on four digits; any other with its sign and at least four digits. -/
def writeYear (year : Int) : List Char :=
  if 0 ≤ year ∧ year ≤ 9999 then decimal 4 year.toNat
  else (if year < 0 then '-' else '+') :: decimal 4 year.natAbs

/-- Year, month and day with `separator` between them. -/
def Date.write (separator : List Char) (d : Date) : List Char :=
  writeYear d.year ++ separator ++ twoDigits d.month ++ separator ++ twoDigits d.day

namespace TimeOfDay

/-- Hour and minute with `separator` between them. -/
def writeHourMinute (separator : List Char) (t : TimeOfDay) : List Char :=
  twoDigits t.hour ++ separator ++ twoDigits t.minute

/-- Hour, minute and second with `separator` between them. -/
def write (separator : List Char) (t : TimeOfDay) : List Char :=
  t.writeHourMinute separator ++ separator ++ twoDigits t.second

end TimeOfDay

/-- An offset from UTC as sign, two digits of hours and two of minutes. Seconds are rounded to the
nearest minute, half a minute away from zero, and the sign stays also where the rounding gives
zero. -/
def writeOffset (offset : Int) : List Char :=
  let minutes := (offset.natAbs + 30) / 60
  (if offset < 0 then '-' else '+') :: (twoDigits (minutes / 60) ++ twoDigits (minutes % 60))

end CommitStamp
