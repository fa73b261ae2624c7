import CommitStamp.Calendar.Format
import CommitStamp.Proofs.Template.Written
import CommitStamp.Proofs.Text.Numeral
import CommitStamp.Revision.LogLine
/-!
# The date fields of a log line

The readers of dates and times take numbers of any width that fits, and the writers fill up with
zeros. On fields of full width the two are inverse to each other: a field of ten characters leaves
four digits for the year and two for month and day, one of eight leaves two for each number of a
time. An offset is read and written with the same five characters, except that zero has one sign
only when it is written.
-/

namespace CommitStamp

open Text

variable {s : List Char} {n : Nat}

/-! ## Numbers -/

theorem ofDecimal?_decimal (width n : Nat) : ofDecimal? (decimal width n) = some n :=
  ofDecimal?_eq_some_iff.2
    ⟨decimal_ne_nil width n, fun _ => isDigit_of_mem_decimal, ofDecimal_decimal width n⟩

/-- A number is written with the digits that it was read from, on as many places. -/
theorem decimal_of_ofDecimal? (h : ofDecimal? s = some n) : decimal s.length n = s := by
  obtain ⟨hne, hdigits, rfl⟩ := ofDecimal?_eq_some_iff.1 h
  exact decimal_ofDecimal hdigits (List.length_pos_iff.2 hne)

theorem length_twoDigits (h : n < 100) : (twoDigits n).length = 2 :=
  length_decimal (by decide) h

/-- Three numbers with separators between them consist of digits and of these. -/
theorem digit_or_separator_of_mem {c separator : Char} {width first second third : Nat}
    (hc : c ∈ decimal width first ++
      separator :: (twoDigits second ++ separator :: twoDigits third)) :
    (isDigit c || c == separator) = true := by
  rw [Bool.or_eq_true, beq_iff_eq]
  simp only [List.mem_append, List.mem_cons] at hc
  rcases hc with hc | hc | hc | hc | hc
  · exact .inl (isDigit_of_mem_decimal hc)
  · exact .inr hc
  · exact .inl (isDigit_of_mem_decimal hc)
  · exact .inr hc
  · exact .inl (isDigit_of_mem_decimal hc)

theorem not_mem_decimal {c : Char} (hc : isDigit c = false) (width n : Nat) :
    c ∉ decimal width n :=
  fun hmem => ne_of_isDigit (isDigit_of_mem_decimal hmem) hc rfl

/-! ## Numbers of the calendar -/

theorem Date.of?_eq_some_iff {year : Int} {month day : Nat} {d : Date} :
    Date.of? year month day = some d ↔ d.year = year ∧ d.month = month ∧ d.day = day := by
  obtain ⟨y, m, dd, hm, hd⟩ := d
  unfold Date.of?
  constructor
  · intro h
    split at h
    · split at h
      · cases h
        exact ⟨rfl, rfl, rfl⟩
      · exact absurd h (by simp)
    · exact absurd h (by simp)
  · rintro ⟨rfl, rfl, rfl⟩
    rw [dif_pos hm, dif_pos hd]

theorem TimeOfDay.of?_eq_some_iff {hour minute second nanosecond : Nat} {t : TimeOfDay} :
    TimeOfDay.of? hour minute second nanosecond = some t
      ↔ t.hour = hour ∧ t.minute = minute ∧ t.second = second ∧ t.nanosecond = nanosecond := by
  obtain ⟨h, m, sec, nano, hh, hm, hs, hn⟩ := t
  unfold TimeOfDay.of?
  constructor
  · intro heq
    split at heq
    · cases heq
      exact ⟨rfl, rfl, rfl, rfl⟩
    · exact absurd heq (by simp)
  · rintro ⟨rfl, rfl, rfl, rfl⟩
    rw [dif_pos ⟨hh, hm, hs, hn⟩]

namespace LogLine

theorem shortNumber?_eq_some_iff :
    shortNumber? s = some n ↔ s.length ≤ 2 ∧ ofDecimal? s = some n := by
  rw [shortNumber?, Option.ite_none_right_eq_some]

theorem shortNumber?_twoDigits (h : n < 100) : shortNumber? (twoDigits n) = some n :=
  shortNumber?_eq_some_iff.2 ⟨Nat.le_of_eq (length_twoDigits h), ofDecimal?_decimal 2 n⟩

theorem twoDigits_of_shortNumber? (h : shortNumber? s = some n) (hlen : s.length = 2) :
    twoDigits n = s := by
  have hs := decimal_of_ofDecimal? (shortNumber?_eq_some_iff.1 h).2
  rwa [hlen] at hs

/-! ## Dates -/

variable {d : Date} {t : TimeOfDay}

theorem unsignedDate?_eq_some_iff {year? : List Char → Option Int} :
    unsignedDate? year? s = some d ↔ ∃ year month day,
      s = year ++ '-' :: (month ++ '-' :: day) ∧ '-' ∉ year ∧ '-' ∉ month ∧
        year? year = some d.year ∧ shortNumber? month = some d.month ∧
        shortNumber? day = some d.day := by
  simp only [unsignedDate?, Option.bind_eq_bind, Option.bind_eq_some_iff, Prod.exists,
    cutAt_eq_some_iff, Date.of?_eq_some_iff]
  constructor
  · rintro ⟨year, _, ⟨rfl, hyear⟩, month, day, ⟨rfl, hmonth⟩, _, hy, _, hm, _, hd, rfl, rfl, rfl⟩
    exact ⟨year, month, day, rfl, hyear, hmonth, hy, hm, hd⟩
  · rintro ⟨year, month, day, rfl, hyear, hmonth, hy, hm, hd⟩
    exact ⟨year, _, ⟨rfl, hyear⟩, month, day, ⟨rfl, hmonth⟩, _, hy, _, hm, _, hd, rfl, rfl, rfl⟩

/-- The reader of a year without a sign. -/
theorem date?_of_head (hs : s.head? ≠ some '-') :
    date? s = unsignedDate? (fun digits =>
      if digits.length ≤ 4 then (ofDecimal? digits).map Int.ofNat else none) s := by
  unfold date?
  split
  · exact absurd rfl hs
  · rfl

theorem date_write_eq (hyear : 0 ≤ d.year ∧ d.year ≤ 9999) :
    d.write ['-'] = decimal 4 d.year.toNat ++
      '-' :: (twoDigits d.month ++ '-' :: twoDigits d.day) := by
  rw [Date.write, writeYear, if_pos hyear]
  simp

theorem head?_date_write (hyear : 0 ≤ d.year ∧ d.year ≤ 9999) :
    (d.write ['-']).head? ≠ some '-' := by
  intro hhead
  have hmem : '-' ∉ decimal 4 d.year.toNat := not_mem_decimal (by decide) 4 d.year.toNat
  rw [date_write_eq hyear] at hhead
  cases hdigits : decimal 4 d.year.toNat with
  | nil => exact decimal_ne_nil 4 d.year.toNat hdigits
  | cons c digits =>
    rw [hdigits] at hhead hmem
    obtain rfl : c = '-' := Option.some.inj hhead
    exact hmem List.mem_cons_self

theorem length_date_write (hyear : 0 ≤ d.year ∧ d.year ≤ 9999) : (d.write ['-']).length = 10 := by
  have hlen : (decimal 4 d.year.toNat).length = 4 := length_decimal (by decide) (by omega)
  rw [date_write_eq hyear, List.length_append, List.length_cons, List.length_append,
    List.length_cons, hlen, length_twoDigits d.month_lt, length_twoDigits d.day_lt]

theorem dateChar_of_mem_write (hyear : 0 ≤ d.year ∧ d.year ≤ 9999) {c : Char}
    (hc : c ∈ d.write ['-']) : (isDigit c || c == '-') = true := by
  rw [date_write_eq hyear] at hc
  exact digit_or_separator_of_mem hc

/-- A date with a year of four digits is read as it was written. -/
theorem date?_write (hyear : 0 ≤ d.year ∧ d.year ≤ 9999) : date? (d.write ['-']) = some d := by
  have hlen : (decimal 4 d.year.toNat).length = 4 := length_decimal (by decide) (by omega)
  rw [date?_of_head (head?_date_write hyear), date_write_eq hyear, unsignedDate?_eq_some_iff]
  refine ⟨decimal 4 d.year.toNat, twoDigits d.month, twoDigits d.day, rfl,
    not_mem_decimal (by decide) 4 d.year.toNat, not_mem_decimal (by decide) 2 d.month, ?_,
    shortNumber?_twoDigits d.month_lt, shortNumber?_twoDigits d.day_lt⟩
  rw [if_pos (Nat.le_of_eq hlen), ofDecimal?_decimal, Option.map_some]
  exact congrArg some (Int.toNat_of_nonneg hyear.1)

/-- A date that takes ten characters has a year of four digits, and is written as it was read. -/
theorem write_of_date? (h : date? s = some d) (hlen : s.length = 10) (hs : s.head? ≠ some '-') :
    (0 ≤ d.year ∧ d.year ≤ 9999) ∧ d.write ['-'] = s := by
  rw [date?_of_head hs, unsignedDate?_eq_some_iff] at h
  obtain ⟨year, month, day, rfl, -, -, hy, hm, hd⟩ := h
  rw [Option.ite_none_right_eq_some, Option.map_eq_some_iff] at hy
  obtain ⟨hyearlen, y, hy, hyear⟩ := hy
  have hmonthlen := (shortNumber?_eq_some_iff.1 hm).1
  have hdaylen := (shortNumber?_eq_some_iff.1 hd).1
  simp only [List.length_append, List.length_cons] at hlen
  -- each of the three has its full width
  have hyear4 : year.length = 4 := by omega
  have hlt : y < 10 ^ 4 := by
    obtain ⟨-, hdigits, rfl⟩ := ofDecimal?_eq_some_iff.1 hy
    exact hyear4 ▸ ofDecimal_lt hdigits
  have hrange : 0 ≤ d.year ∧ d.year ≤ 9999 := by
    have hcast : (y : Int) = d.year := hyear
    omega
  have hwritten : decimal 4 d.year.toNat = year := by
    rw [← hyear, ← hyear4]
    exact decimal_of_ofDecimal? hy
  refine ⟨hrange, ?_⟩
  rw [date_write_eq hrange, hwritten, twoDigits_of_shortNumber? hm (by omega),
    twoDigits_of_shortNumber? hd (by omega)]

/-! ## Times -/

theorem time?_eq_some_iff :
    time? s = some t ↔ ∃ hour minute second,
      s = hour ++ ':' :: (minute ++ ':' :: second) ∧ ':' ∉ hour ∧ ':' ∉ minute ∧
        shortNumber? hour = some t.hour ∧ shortNumber? minute = some t.minute ∧
        shortNumber? second = some t.second ∧ t.nanosecond = 0 := by
  simp only [time?, Option.bind_eq_bind, Option.bind_eq_some_iff, Prod.exists,
    cutAt_eq_some_iff, TimeOfDay.of?_eq_some_iff]
  constructor
  · rintro ⟨hour, _, ⟨rfl, hhour⟩, minute, second, ⟨rfl, hminute⟩, _, hh, _, hm, _, hs, rfl, rfl,
      rfl, hwhole⟩
    exact ⟨hour, minute, second, rfl, hhour, hminute, hh, hm, hs, hwhole⟩
  · rintro ⟨hour, minute, second, rfl, hhour, hminute, hh, hm, hs, hwhole⟩
    exact ⟨hour, _, ⟨rfl, hhour⟩, minute, second, ⟨rfl, hminute⟩, _, hh, _, hm, _, hs, rfl, rfl,
      rfl, hwhole⟩

theorem time_write_eq (t : TimeOfDay) :
    t.write [':']
      = twoDigits t.hour ++ ':' :: (twoDigits t.minute ++ ':' :: twoDigits t.second) := by
  simp [TimeOfDay.write, TimeOfDay.writeHourMinute]

theorem length_time_write (t : TimeOfDay) : (t.write [':']).length = 8 := by
  have hhour := t.hour_lt
  have hminute := t.minute_lt
  have hsecond := t.second_le
  rw [time_write_eq, List.length_append, List.length_cons, List.length_append, List.length_cons,
    length_twoDigits (by omega), length_twoDigits (by omega), length_twoDigits (by omega)]

theorem timeChar_of_mem_write (t : TimeOfDay) {c : Char} (hc : c ∈ t.write [':']) :
    (isDigit c || c == ':') = true := by
  rw [time_write_eq] at hc
  exact digit_or_separator_of_mem hc

/-- A time is read as it was written, if it has no part of a second. -/
theorem time?_write (hwhole : t.nanosecond = 0) : time? (t.write [':']) = some t := by
  have hhour := t.hour_lt
  have hminute := t.minute_lt
  have hsecond := t.second_le
  rw [time_write_eq, time?_eq_some_iff]
  exact ⟨twoDigits t.hour, twoDigits t.minute, twoDigits t.second, rfl,
    not_mem_decimal (by decide) 2 t.hour, not_mem_decimal (by decide) 2 t.minute,
    shortNumber?_twoDigits (by omega), shortNumber?_twoDigits (by omega),
    shortNumber?_twoDigits (by omega), hwhole⟩

/-- A time that takes eight characters is written as it was read. -/
theorem write_of_time? (h : time? s = some t) (hlen : s.length = 8) : t.write [':'] = s := by
  rw [time?_eq_some_iff] at h
  obtain ⟨hour, minute, second, rfl, -, -, hh, hm, hs, -⟩ := h
  have hhourlen := (shortNumber?_eq_some_iff.1 hh).1
  have hminutelen := (shortNumber?_eq_some_iff.1 hm).1
  have hsecondlen := (shortNumber?_eq_some_iff.1 hs).1
  simp only [List.length_append, List.length_cons] at hlen
  rw [time_write_eq, twoDigits_of_shortNumber? hh (by omega),
    twoDigits_of_shortNumber? hm (by omega), twoDigits_of_shortNumber? hs (by omega)]

/-! ## Offsets -/

theorem offset?_eq_some_iff {offset : Int} :
    offset? s = some offset ↔ ∃ sign hours minutes, ∃ hour minute : Nat,
      s = sign :: (hours ++ minutes) ∧ hours.length = 2 ∧ minutes.length = 2 ∧
        ofDecimal? hours = some hour ∧ ofDecimal? minutes = some minute ∧ minute < 60 ∧
        (sign = '+' ∧ offset = hour * 3600 + minute * 60 ∨
          sign = '-' ∧ offset = -(hour * 3600 + minute * 60)) := by
  cases s with
  | nil => simp [offset?]
  | cons sign digits =>
    simp only [offset?, Option.bind_eq_bind, Option.pure_def, Option.bind_none,
      Option.ite_none_left_eq_some, Option.bind_eq_some_iff, ne_eq,
      Decidable.not_not, Nat.not_le]
    constructor
    · rintro ⟨hlen, hour, hh, minute, hm, hlt, hsign⟩
      refine ⟨sign, digits.take 2, digits.drop 2, hour, minute, by rw [List.take_append_drop],
        by rw [List.length_take, hlen]; rfl, by rw [List.length_drop, hlen], hh, hm, hlt, ?_⟩
      split at hsign
      · next hplus => exact .inl ⟨hplus, (Option.some.inj hsign).symm⟩
      · split at hsign
        · next hminus => exact .inr ⟨hminus, (Option.some.inj hsign).symm⟩
        · exact absurd hsign (by simp)
    · rintro ⟨_, hours, minutes, hour, minute, heq, hhours, hminutes, hh, hm, hlt, hsign⟩
      obtain ⟨rfl, rfl⟩ := List.cons.inj heq
      refine ⟨by rw [List.length_append, hhours, hminutes], hour, ?_, minute, ?_, hlt, ?_⟩
      · rw [List.take_left' hhours, hh]
      · rw [List.drop_left' hhours, hm]
      · rcases hsign with ⟨rfl, rfl⟩ | ⟨rfl, rfl⟩
        · exact if_pos rfl
        · exact (if_neg (by decide)).trans (if_pos rfl)

theorem length_writeOffset {offset : Int} (hday : offset.natAbs < 86400) :
    (writeOffset offset).length = 5 := by
  have hhour : (offset.natAbs + 30) / 60 / 60 < 100 := by omega
  have hminute : (offset.natAbs + 30) / 60 % 60 < 100 := by omega
  simp only [writeOffset, List.length_cons, List.length_append, length_twoDigits hhour,
    length_twoDigits hminute]

theorem offsetChar_of_mem_write {offset : Int} {c : Char} (hc : c ∈ writeOffset offset) :
    (isDigit c || c == '+' || c == '-') = true := by
  simp only [writeOffset, List.mem_cons, List.mem_append] at hc
  rcases hc with rfl | hc | hc
  · split <;> rfl
  · rw [isDigit_of_mem_decimal hc, Bool.true_or, Bool.true_or]
  · rw [isDigit_of_mem_decimal hc, Bool.true_or, Bool.true_or]

/-- An offset of whole minutes is read as it was written. -/
theorem offset?_writeOffset {offset : Int} (hminutes : 60 ∣ offset) (hday : offset.natAbs < 86400) :
    offset? (writeOffset offset) = some offset := by
  rw [offset?_eq_some_iff]
  have hhour : (offset.natAbs + 30) / 60 / 60 < 100 := by omega
  have hminute : (offset.natAbs + 30) / 60 % 60 < 100 := by omega
  refine ⟨_, _, _, _, _, rfl, length_twoDigits hhour, length_twoDigits hminute,
    ofDecimal?_decimal _ _, ofDecimal?_decimal _ _, by omega, ?_⟩
  split
  · right
    exact ⟨rfl, by omega⟩
  · left
    exact ⟨rfl, by omega⟩

/-- The sign of a zero offset is not kept. -/
def normalOffset (s : List Char) : List Char :=
  if s = "-0000".toList then "+0000".toList else s

/-- An offset is written as it was read, but for the sign of zero. -/
theorem writeOffset_of_offset? {offset : Int} (h : offset? s = some offset) :
    writeOffset offset = normalOffset s := by
  obtain ⟨sign, hours, minutes, hour, minute, rfl, hhourlen, hminutelen, hh, hm, hlt, hsign⟩ :=
    offset?_eq_some_iff.1 h
  have hhours : twoDigits hour = hours := by
    have hfull := decimal_of_ofDecimal? hh
    rwa [hhourlen] at hfull
  have hminutes : twoDigits minute = minutes := by
    have hfull := decimal_of_ofDecimal? hm
    rwa [hminutelen] at hfull
  have habs : offset.natAbs = hour * 3600 + minute * 60 := by omega
  have hcount : (offset.natAbs + 30) / 60 = hour * 60 + minute := by omega
  have hdigits : writeOffset offset = (if offset < 0 then '-' else '+') :: (hours ++ minutes) := by
    rw [writeOffset, hcount, ← hhours, ← hminutes]
    have hdiv : (hour * 60 + minute) / 60 = hour := by omega
    have hmod : (hour * 60 + minute) % 60 = minute := by omega
    simp only [hdiv, hmod]
  rw [hdigits, normalOffset]
  rcases hsign with ⟨rfl, hoffset⟩ | ⟨rfl, hoffset⟩
  · have hne : '+' :: (hours ++ minutes) ≠ "-0000".toList :=
      fun heq => absurd (List.cons.inj heq).1 (by decide)
    rw [if_neg hne, if_neg (by omega)]
  · by_cases hzero : offset = 0
    · -- both numbers are zero, and so are their digits
      have hnumbers : hour = 0 ∧ minute = 0 := by omega
      rw [← hhours, ← hminutes, hnumbers.1, hnumbers.2, if_neg (by omega)]
      rfl
    · have hne : '-' :: (hours ++ minutes) ≠ "-0000".toList := by
        intro heq
        obtain ⟨rfl, rfl⟩ : hours = ['0', '0'] ∧ minutes = ['0', '0'] :=
          List.append_inj (List.cons.inj heq).2 hhourlen
        have hhour : hour = 0 := (Option.some.inj hh).symm
        have hminute : minute = 0 := (Option.some.inj hm).symm
        omega
      rw [if_neg hne, if_pos (by omega)]

end LogLine

end CommitStamp
