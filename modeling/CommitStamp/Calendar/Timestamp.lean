import CommitStamp.Calendar.Date
/-!
# Timestamps

A wall clock, to the nanosecond, together with its offset from UTC. Second `60` is a leap second; it
is kept as written and counts sixty seconds into its minute.
-/

namespace CommitStamp

/-- A time of day; second `60` is a leap second, allowed in any minute. -/
structure TimeOfDay where
  hour : Nat
  minute : Nat
  second : Nat
  /-- How much of the second has gone by. -/
  nanosecond : Nat
  hour_lt : hour < 24
  minute_lt : minute < 60
  second_le : second ≤ 60
  nanosecond_lt : nanosecond < 1000000000
deriving DecidableEq

namespace TimeOfDay

/-- The time of day with these numbers, if there is one. -/
def of? (hour minute second : Nat) (nanosecond : Nat := 0) : Option TimeOfDay :=
  if h : hour < 24 ∧ minute < 60 ∧ second ≤ 60 ∧ nanosecond < 1000000000 then
    some ⟨hour, minute, second, nanosecond, h.1, h.2.1, h.2.2.1, h.2.2.2⟩
  else none

/-- Whole seconds since midnight. -/
def seconds (t : TimeOfDay) : Nat :=
  t.hour * 3600 + t.minute * 60 + t.second

end TimeOfDay

/-- A wall clock and its offset east of UTC in seconds, less than a day either way. -/
structure Timestamp where
  date : Date
  time : TimeOfDay
  offset : Int
  offset_lt : offset.natAbs < 86400
deriving DecidableEq

namespace Timestamp

/-- The wall clock `date` and `time` at an offset, if the offset is less than a day. -/
def of? (date : Date) (time : TimeOfDay) (offset : Int) : Option Timestamp :=
  if h : offset.natAbs < 86400 then some ⟨date, time, offset, h⟩ else none

/-- Seconds from 1 January of `year`, 00:00, to the second that the wall clock of `t` shows. The
offset from UTC has no part in it. -/
def secondsSince (t : Timestamp) (year : Int) : Int :=
  (t.date.dayNumber - daysBeforeYear year) * 86400 + t.time.seconds

/-- Nanoseconds from 1 January of `year`, 00:00, to the wall clock of `t`. -/
def nanosecondsSince (t : Timestamp) (year : Int) : Int :=
  t.secondsSince year * 1000000000 + t.time.nanosecond

/-- Whole minutes from 1 January of `year`, 00:00, to the wall clock of `t`; a part of a minute is
dropped, on either side of zero. -/
def minutesSince (t : Timestamp) (year : Int) : Int :=
  (t.nanosecondsSince year).tdiv 60000000000

end Timestamp

end CommitStamp
