import CommitStamp.Calendar.Timestamp
import Mathlib.Algebra.BigOperators.Intervals
/-!
# Counting days

`daysBeforeYear` gives the number of a year's first day in closed form. Here the days are counted
instead: a year has 366 or 365 of them (`daysInYear`), and from one year to another there are as
many as the years between have together (`daysFromTo`).
`Timestamp.nanosecondsSince_eq_countedNanoseconds` says that the span to a wall clock comes out the
same in both ways, on either side of the year and in any year at all.
-/

namespace CommitStamp

/-- The number of days of a year: 366 if it is divisible by 4 and not by 100, or by 400. -/
def daysInYear (year : Int) : Nat :=
  if (4 ∣ year ∧ ¬100 ∣ year) ∨ 400 ∣ year then 366 else 365

/-- Days from 1 January of one year to 1 January of another, year by year; negative if the other
one comes before. -/
def daysFromTo (first last : Int) : Int :=
  ∑ k ∈ Finset.range (last - first).toNat, (daysInYear (first + k) : Int)
    - ∑ k ∈ Finset.range (first - last).toNat, (daysInYear (last + k) : Int)

/-- Days from 1 January of a year to a date, year by year, then month by month, then day by day. -/
def Date.countedDays (d : Date) (year : Int) : Int :=
  daysFromTo year d.year + ∑ m ∈ Finset.Ico 1 d.month, (daysInMonth d.year m : Int) + (d.day - 1)

/-- Nanoseconds from 1 January of a year, 00:00:00, to a wall clock. Second `60` counts as the
sixtieth after the beginning of its minute. -/
def Timestamp.countedNanoseconds (t : Timestamp) (year : Int) : Int :=
  (t.date.countedDays year * 86400 + (t.time.hour * 3600 + t.time.minute * 60 + t.time.second))
    * 1000000000 + t.time.nanosecond

/-! ## Years -/

theorem daysBeforeYear_succ (year : Int) :
    daysBeforeYear (year + 1) = daysBeforeYear year + daysInYear year := by
  unfold daysBeforeYear daysInYear
  by_cases hleap : (4 ∣ year ∧ ¬100 ∣ year) ∨ 400 ∣ year
  · rw [if_pos hleap]
    omega
  · rw [if_neg hleap]
    omega

/-- The years of a span add up. -/
theorem sum_daysInYear (first : Int) (n : Nat) :
    ∑ k ∈ Finset.range n, (daysInYear (first + k) : Int)
      = daysBeforeYear (first + n) - daysBeforeYear first := by
  induction n with
  | zero => simp
  | succ n ih =>
    have hnext : first + (n + 1 : Nat) = first + n + 1 := by omega
    rw [Finset.sum_range_succ, ih, hnext, daysBeforeYear_succ]
    omega

theorem daysFromTo_eq (first last : Int) :
    daysFromTo first last = daysBeforeYear last - daysBeforeYear first := by
  unfold daysFromTo
  rw [sum_daysInYear, sum_daysInYear]
  rcases Int.le_total first last with h | h
  · have hlast : first + ((last - first).toNat : Int) = last := by omega
    have hnone : (first - last).toNat = 0 := by omega
    rw [hlast, hnone]
    simp
  · have hfirst : last + ((first - last).toNat : Int) = first := by omega
    have hnone : (last - first).toNat = 0 := by omega
    rw [hfirst, hnone]
    simp

/-! ## Months and days -/

/-- The months before a month add up. -/
theorem sum_daysInMonth (year : Int) {month : Nat} (h : 1 ≤ month) :
    ∑ m ∈ Finset.Ico 1 month, (daysInMonth year m : Int) = daysBeforeMonth year month := by
  induction month, h using Nat.le_induction with
  | base => rfl
  | succ month h ih =>
    rw [Finset.sum_Ico_succ_top h, ih, daysBeforeMonth, Int.natCast_add]

theorem Date.dayNumber_sub_eq_countedDays (d : Date) (year : Int) :
    d.dayNumber - daysBeforeYear year = d.countedDays year := by
  have hday : ((d.day - 1 : Nat) : Int) = d.day - 1 := Int.natCast_pred_of_pos d.day_mem.1
  rw [dayNumber, countedDays, daysFromTo_eq, sum_daysInMonth _ d.month_mem.1, hday]
  omega

theorem Date.month_lt (d : Date) : d.month < 100 := by
  have hmonth := d.month_mem
  omega

theorem Date.day_lt (d : Date) : d.day < 100 := by
  have hlen : ∀ year : Int, ∀ month, daysInMonth year month ≤ 31 := by
    intro year month
    unfold daysInMonth
    split <;> (try split) <;> omega
  have hday := d.day_mem
  have hle := hlen d.year d.month
  omega

/-- **The span to a wall clock** is the number of nanoseconds that go by. -/
theorem Timestamp.nanosecondsSince_eq_countedNanoseconds (t : Timestamp) (year : Int) :
    t.nanosecondsSince year = t.countedNanoseconds year := by
  rw [nanosecondsSince, secondsSince, countedNanoseconds, Date.dayNumber_sub_eq_countedDays,
    TimeOfDay.seconds]
  push_cast
  rfl

end CommitStamp
