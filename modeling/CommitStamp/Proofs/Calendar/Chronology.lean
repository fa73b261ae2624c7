import CommitStamp.Proofs.Calendar.Days
import Mathlib
/-!
# Wall clocks in order

Wall clocks are compared field by field, from the year down to the second (`Timestamp.clock`), and
spans are differences of numbers. The two orders agree because no field runs into the next one: the
days of a month end before the next month starts, the months of a year before the next year, and
second `60` ends no later than the next minute starts. `Timestamp.secondsSince_le_of_clock_le` puts
this together.
-/

namespace CommitStamp

/-! ## Fields -/

/-- The fields of a date, compared from the year on. -/
def Date.fields (d : Date) : Int ×ₗ Nat ×ₗ Nat :=
  toLex (d.year, toLex (d.month, d.day))

/-- The fields of a time of day, compared from the hour down to the second. -/
def TimeOfDay.fields (t : TimeOfDay) : Nat ×ₗ Nat ×ₗ Nat :=
  toLex (t.hour, toLex (t.minute, t.second))

/-- The fields of a wall clock: year, month, day, hour, minute and second, compared in this order.
Neither the offset from UTC nor the part of a second is one of them. -/
def Timestamp.clock (t : Timestamp) : (Int ×ₗ Nat ×ₗ Nat) ×ₗ (Nat ×ₗ Nat ×ₗ Nat) :=
  toLex (t.date.fields, t.time.fields)

/-! ## Dates -/

theorem daysBeforeYear_strictMono : StrictMono daysBeforeYear := by
  apply strictMono_int_of_lt_succ
  intro year
  have hpos : 0 < daysInYear year := by
    unfold daysInYear
    split <;> decide
  rw [daysBeforeYear_succ]
  omega

theorem daysBeforeMonth_mono (year : Int) : Monotone (daysBeforeMonth year) :=
  monotone_nat_of_le_succ fun _ => Nat.le_add_right _ _

/-- The twelve months make up the year. -/
theorem daysBeforeMonth_thirteen (year : Int) : daysBeforeMonth year 13 = daysInYear year := by
  have hleap : isLeapYear year = true ↔ (4 ∣ year ∧ ¬100 ∣ year) ∨ 400 ∣ year := by
    simp only [isLeapYear, Bool.or_eq_true, Bool.and_eq_true, beq_iff_eq, bne_iff_ne]
    omega
  by_cases h : isLeapYear year = true
  · rw [daysInYear, if_pos (hleap.1 h)]
    simp [daysBeforeMonth, daysInMonth, h]
  · rw [daysInYear, if_neg (mt hleap.2 h)]
    simp [daysBeforeMonth, daysInMonth, h]

namespace Date

variable {d e : Date}

/-- A day of a month comes before the next month. -/
theorem day_lt_nextMonth (d : Date) :
    daysBeforeMonth d.year d.month + (d.day - 1) < daysBeforeMonth d.year (d.month + 1) := by
  have hday := d.day_mem
  rw [daysBeforeMonth]
  omega

/-- A day of a year comes before the next year. -/
theorem dayNumber_lt_nextYear (d : Date) : d.dayNumber < daysBeforeYear (d.year + 1) := by
  have hmonth : daysBeforeMonth d.year (d.month + 1) ≤ daysInYear d.year := by
    rw [← daysBeforeMonth_thirteen]
    exact daysBeforeMonth_mono d.year (Nat.succ_le_succ d.month_mem.2)
  have hday := d.day_lt_nextMonth
  rw [dayNumber, daysBeforeYear_succ]
  omega

theorem daysBeforeYear_le_dayNumber (d : Date) : daysBeforeYear d.year ≤ d.dayNumber := by
  rw [dayNumber]
  omega

theorem fields_lt_iff :
    d.fields < e.fields ↔
      d.year < e.year ∨
        d.year = e.year ∧ (d.month < e.month ∨ d.month = e.month ∧ d.day < e.day) := by
  rw [fields, fields, Prod.Lex.toLex_lt_toLex, Prod.Lex.toLex_lt_toLex]

theorem fields_injective (h : d.fields = e.fields) : d = e := by
  obtain ⟨year, month, day, _, _⟩ := d
  obtain ⟨year', month', day', _, _⟩ := e
  cases h
  rfl

/-- **Later dates have higher numbers.** -/
theorem dayNumber_lt_of_fields_lt (h : d.fields < e.fields) : d.dayNumber < e.dayNumber := by
  rcases fields_lt_iff.1 h with hyear | ⟨hyear, hmonth | ⟨hmonth, hday⟩⟩
  · calc d.dayNumber
        < daysBeforeYear (d.year + 1) := d.dayNumber_lt_nextYear
      _ ≤ daysBeforeYear e.year := daysBeforeYear_strictMono.monotone hyear
      _ ≤ e.dayNumber := e.daysBeforeYear_le_dayNumber
  · have hnext : daysBeforeMonth d.year (d.month + 1) ≤ daysBeforeMonth d.year e.month :=
      daysBeforeMonth_mono d.year hmonth
    have hday := d.day_lt_nextMonth
    rw [dayNumber, dayNumber, ← hyear]
    omega
  · have hpos := d.day_mem.1
    rw [dayNumber, dayNumber, hyear, hmonth]
    omega

end Date

/-! ## Times of day -/

namespace TimeOfDay

variable {t u : TimeOfDay}

/-- A day ends no later than the next one starts, a second `60` included. -/
theorem seconds_le (t : TimeOfDay) : t.seconds ≤ 86400 := by
  have hhour := t.hour_lt
  have hminute := t.minute_lt
  have hsecond := t.second_le
  rw [seconds]
  omega

/-- Later times have no fewer seconds since midnight. They may have as many: second `60` of a minute
is second `0` of the next. -/
theorem seconds_le_of_fields_le (h : t.fields ≤ u.fields) : t.seconds ≤ u.seconds := by
  have hminute := t.minute_lt
  have hsecond := t.second_le
  rw [fields, fields, Prod.Lex.toLex_le_toLex, Prod.Lex.toLex_le_toLex] at h
  rw [seconds, seconds]
  rcases h with h | ⟨h, h' | ⟨h', h''⟩⟩ <;> omega

end TimeOfDay

/-! ## Wall clocks -/

namespace Timestamp

variable {t u : Timestamp}

/-- **Later wall clocks are no fewer seconds away** from the start of any year. -/
theorem secondsSince_le_of_clock_le (h : t.clock ≤ u.clock) (year : Int) :
    t.secondsSince year ≤ u.secondsSince year := by
  rw [clock, clock, Prod.Lex.toLex_le_toLex] at h
  rw [secondsSince, secondsSince]
  rcases h with hdate | ⟨hdate, htime⟩
  · -- the earlier day is over when the later one starts
    have hnumber : t.date.dayNumber < u.date.dayNumber := Date.dayNumber_lt_of_fields_lt hdate
    have hday := t.time.seconds_le
    omega
  · have hseconds : t.time.seconds ≤ u.time.seconds := TimeOfDay.seconds_le_of_fields_le htime
    rw [Date.fields_injective hdate]
    omega

/-- The wall clock at the start of a year. -/
def startOfYear (year : Int) : Timestamp where
  date := ⟨year, 1, 1, by decide, by simp [daysInMonth]⟩
  time := ⟨0, 0, 0, 0, by decide, by decide, by decide, by decide⟩
  offset := 0
  offset_lt := by decide

theorem secondsSince_startOfYear (year : Int) : (startOfYear year).secondsSince year = 0 := by
  simp [secondsSince, startOfYear, Date.dayNumber, TimeOfDay.seconds, daysBeforeMonth, daysInMonth]

/-- From the start of a year on, there are seconds after it. -/
theorem secondsSince_nonneg {year : Int} (h : (startOfYear year).clock ≤ t.clock) :
    0 ≤ t.secondsSince year := by
  rw [← secondsSince_startOfYear year]
  exact secondsSince_le_of_clock_le h year

end Timestamp

end CommitStamp
