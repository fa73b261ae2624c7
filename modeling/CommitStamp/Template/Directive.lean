import CommitStamp.Calendar.Format
import CommitStamp.Revision.Basic
import CommitStamp.Text.Prefix
/-!
# Directives

A directive is a group in braces that stands for some part of a revision. What is between the
braces, its *body*, never holds a closing brace, so a directive recognises a group by its body
alone.

There are eleven *fixed tokens*, each a single body, and four directives with a parameter: a text
for dirty trees, a number of hash digits, and two forms of the minutes since a year.
-/

namespace CommitStamp

open Text

/-- The directives without a parameter. -/
inductive FixedToken where
  | dirtyMark
  | commit
  | date
  | dashedDate
  | time
  | hourMinuteSecond
  | colonTime
  | hourMinute
  | colonHourMinute
  | hour
  | offset
deriving DecidableEq

namespace FixedToken

/-- The fixed tokens in the order in which they are substituted. -/
def all : List FixedToken :=
  [.dirtyMark, .commit, .date, .dashedDate, .time, .hourMinuteSecond, .colonTime, .hourMinute,
    .colonHourMinute, .hour, .offset]

/-- The text between the braces. -/
def body : FixedToken → List Char
  | .dirtyMark => "!".toList
  | .commit => "commit".toList
  | .date => "date".toList
  | .dashedDate => "date:ymd-".toList
  | .time => "time".toList
  | .hourMinuteSecond => "time:hms".toList
  | .colonTime => "time:hms:".toList
  | .hourMinute => "time:hm".toList
  | .colonHourMinute => "time:hm:".toList
  | .hour => "time:h".toList
  | .offset => "time:o".toList

/-- What the token stands for. -/
def expansion (r : Revision) : FixedToken → List Char
  | .dirtyMark => if r.dirty then ['!'] else []
  | .commit => r.hash.digits
  | .date => r.time.date.write []
  | .dashedDate => r.time.date.write ['-']
  | .time | .hourMinuteSecond => r.time.time.write []
  | .colonTime => r.time.time.write [':']
  | .hourMinute => r.time.time.writeHourMinute []
  | .colonHourMinute => r.time.time.writeHourMinute [':']
  | .hour => twoDigits r.time.time.hour
  | .offset => writeOffset r.time.offset

end FixedToken

/-- A number of hash digits, 5 to 40, written without a leading zero. -/
def prefixLength? (s : List Char) : Option Nat :=
  if (s.drop 2).isEmpty then
    let n := ofDecimal s
    if 5 ≤ n ∧ n ≤ hashLength ∧ s = Nat.toDigits 10 n then some n else none
  else none

/-- A year on exactly four digits. -/
def minutesYear? : List Char → Option Int
  | [a, b, c, d] => (ofDecimal? [a, b, c, d]).map Int.ofNat
  | _ => none

/-- A year on exactly four digits, a colon, and a width on one or two. -/
def minutesYearWidth? (s : List Char) : Option (Int × Nat) := do
  let year ← minutesYear? (s.take 4)
  let width ← after? [':'] (s.drop 4)
  if (width.drop 2).isEmpty then return (year, ← ofDecimal? width) else none

/-- A count of minutes in hexadecimal, its magnitude filled with zeros to at least `width` digits;
a negative one has its sign in front of the zeros. -/
def writeMinutes (width : Nat) (minutes : Int) : List Char :=
  if minutes < 0 then '-' :: hexadecimal width minutes.natAbs
  else hexadecimal width minutes.natAbs

/-- The directives. -/
inductive Directive where
  /-- One of the tokens without a parameter. -/
  | fixed (token : FixedToken)
  /-- A text that is kept for a dirty tree only. -/
  | dirtyText
  /-- The first digits of the hash. -/
  | hashPrefix
  /-- Minutes since the start of a year. -/
  | minutes
  /-- Minutes since the start of a year, on a least number of digits. -/
  | paddedMinutes
deriving DecidableEq

namespace Directive

/-- The directives in the order in which they are substituted: fixed tokens first, so that they may
stand inside a text for dirty trees. -/
def order : List Directive :=
  FixedToken.all.map .fixed ++ [.dirtyText, .hashPrefix, .minutes, .paddedMinutes]

/-- What a group with this body stands for, if the directive recognises it. -/
def expand? (r : Revision) : Directive → List Char → Option (List Char)
  | .fixed token, body => if body = token.body then some (token.expansion r) else none
  | .dirtyText, body => do
    let text ← after? ['!', ':'] body
    return if r.dirty then text else []
  | .hashPrefix, body => do
    let n ← prefixLength? (← after? "commit:".toList body)
    return r.hash.take n
  | .minutes, body => do
    let year ← minutesYear? (← after? "xmin:".toList body)
    return writeMinutes 1 (r.time.minutesSince year)
  | .paddedMinutes, body => do
    let (year, width) ← minutesYearWidth? (← after? "xmin:".toList body)
    return writeMinutes width (r.time.minutesSince year)

end Directive

end CommitStamp
