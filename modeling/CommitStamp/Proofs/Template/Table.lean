import CommitStamp.Proofs.Calendar.Days
import CommitStamp.Proofs.Text.Numeral
import CommitStamp.Template.Directive
/-!
# The table of directives

What the directives stand for, as it is documented: `FixedToken.layout` lists what each fixed token
shows of a revision, and `minutesText` writes the minutes that go by on the calendar. Nothing here
goes back to the way in which texts are put together for rendering. That it comes to the same is
said by `FixedToken.expansion_eq_meaning` and `writeMinutes_minutesSince`.
-/

namespace CommitStamp

open Text

/-! ## Digits -/

/-- The last digits of a number in decimal, zeros where it has no more. -/
def lastDigits : Nat → Nat → List Char
  | 0, _ => []
  | width + 1, n => lastDigits width (n / 10) ++ [(n % 10).digitChar]

theorem length_lastDigits (width n : Nat) : (lastDigits width n).length = width := by
  induction width generalizing n with
  | zero => rfl
  | succ width ih => rw [lastDigits, List.length_append, ih, List.length_singleton]

theorem isDigit_of_mem_lastDigits {width n : Nat} {c : Char} (hc : c ∈ lastDigits width n) :
    isDigit c = true := by
  have hdigit : ∀ d < 10, isDigit (Nat.digitChar d) = true := by decide
  induction width generalizing n with
  | zero => exact absurd hc List.not_mem_nil
  | succ width ih =>
    rcases List.mem_append.1 hc with hc | hc
    · exact ih hc
    · rw [List.mem_singleton.1 hc]
      exact hdigit _ (Nat.mod_lt n (by decide))

theorem ofDecimal_lastDigits {width n : Nat} (h : n < 10 ^ width) :
    ofDecimal (lastDigits width n) = n := by
  have hvalue : ∀ d < 10, digitValue (Nat.digitChar d) = d := by decide
  rw [← ofDigits_ten fun _ => isDigit_of_mem_lastDigits]
  induction width generalizing n with
  | zero => exact (Nat.lt_one_iff.1 h).symm
  | succ width ih =>
    have hquotient : n / 10 < 10 ^ width := Nat.div_lt_of_lt_mul (Nat.pow_succ' ▸ h)
    rw [lastDigits, ofDigits_append_singleton, ih hquotient,
      hvalue (n % 10) (Nat.mod_lt n (by decide))]
    exact Nat.div_add_mod n 10

/-- A number that fits a width is written with that many of its last digits. -/
theorem decimal_eq_lastDigits {width n : Nat} (hwidth : 0 < width) (h : n < 10 ^ width) :
    decimal width n = lastDigits width n := by
  have hdecimal := decimal_ofDecimal (s := lastDigits width n)
    (fun _ => isDigit_of_mem_lastDigits) (by rwa [length_lastDigits])
  rwa [length_lastDigits, ofDecimal_lastDigits h] at hdecimal

theorem twoDigits_eq_lastDigits {n : Nat} (h : n < 100) : twoDigits n = lastDigits 2 n :=
  decimal_eq_lastDigits (by decide) h

/-! ## Fixed tokens -/

/-- What a fixed token can show of a revision. -/
inductive Shown where
  /-- An exclamation mark, if the tree is dirty. -/
  | dirtyMark
  | hash
  | year
  | month
  | day
  | hour
  | minute
  | second
  /-- The offset from UTC, with its sign. -/
  | offset
  | separator (c : Char)

/-- A year of four digits, and any other with its sign and at least as many. -/
def yearText (year : Int) : List Char :=
  (if year < 0 then ['-'] else if 9999 < year then ['+'] else [])
    ++ if year.natAbs ≤ 9999 then lastDigits 4 year.natAbs else Nat.toDigits 10 year.natAbs

/-- An offset in hours and minutes on two digits each, to the nearest minute. -/
def offsetText (offset : Int) : List Char :=
  let minutes := (offset.natAbs + 30) / 60
  (if offset < 0 then '-' else '+') :: (lastDigits 2 (minutes / 60) ++ lastDigits 2 (minutes % 60))

/-- What is shown, as text. -/
def Shown.text (r : Revision) : Shown → List Char
  | dirtyMark => if r.dirty then ['!'] else []
  | hash => r.hash.digits
  | year => yearText r.time.date.year
  | month => lastDigits 2 r.time.date.month
  | day => lastDigits 2 r.time.date.day
  | hour => lastDigits 2 r.time.time.hour
  | minute => lastDigits 2 r.time.time.minute
  | second => lastDigits 2 r.time.time.second
  | offset => offsetText r.time.offset
  | separator c => [c]

namespace FixedToken

/-- What the token shows, in this order. -/
def layout : FixedToken → List Shown
  | dirtyMark => [.dirtyMark]
  | commit => [.hash]
  | date => [.year, .month, .day]
  | dashedDate => [.year, .separator '-', .month, .separator '-', .day]
  | time | hourMinuteSecond => [.hour, .minute, .second]
  | colonTime => [.hour, .separator ':', .minute, .separator ':', .second]
  | hourMinute => [.hour, .minute]
  | colonHourMinute => [.hour, .separator ':', .minute]
  | hour => [.hour]
  | offset => [.offset]

/-- What the token stands for. -/
def meaning (r : Revision) (token : FixedToken) : List Char :=
  token.layout.flatMap (Shown.text r)

end FixedToken

theorem writeYear_eq_yearText (year : Int) : writeYear year = yearText year := by
  have hdigits : ∀ n, decimal 4 n = if n ≤ 9999 then lastDigits 4 n else Nat.toDigits 10 n := by
    intro n
    split
    · next h => exact decimal_eq_lastDigits (by decide) (Nat.lt_succ_of_le h)
    · next h =>
      -- five digits and more are not filled up to four
      have hlong : ¬(Nat.toDigits 10 n).length ≤ 4 := by
        rw [Nat.length_toDigits_le_iff (by decide) (by decide)]
        omega
      rw [decimal_eq_append, Nat.sub_eq_zero_of_le (Nat.le_of_not_le hlong)]
      rfl
  unfold writeYear yearText
  by_cases hplain : 0 ≤ year ∧ year ≤ 9999
  · have habs : year.toNat = year.natAbs := by omega
    have hneg : ¬year < 0 := by omega
    have hlarge : ¬9999 < year := by omega
    rw [if_pos hplain, if_neg hneg, if_neg hlarge, habs, hdigits]
    rfl
  · rw [if_neg hplain, hdigits]
    by_cases hneg : year < 0
    · rw [if_pos hneg, if_pos hneg]
      rfl
    · have hlarge : 9999 < year := by omega
      rw [if_neg hneg, if_neg hneg, if_pos hlarge]
      rfl

theorem writeOffset_eq_offsetText {offset : Int} (h : offset.natAbs < 86400) :
    writeOffset offset = offsetText offset := by
  unfold writeOffset offsetText
  dsimp only
  rw [twoDigits_eq_lastDigits (by omega), twoDigits_eq_lastDigits (by omega)]

theorem Date.write_eq (separator : List Char) (d : Date) :
    d.write separator = yearText d.year ++ separator ++ lastDigits 2 d.month ++ separator
      ++ lastDigits 2 d.day := by
  rw [write, writeYear_eq_yearText, twoDigits_eq_lastDigits d.month_lt,
    twoDigits_eq_lastDigits d.day_lt]

theorem TimeOfDay.writeHourMinute_eq (separator : List Char) (t : TimeOfDay) :
    t.writeHourMinute separator = lastDigits 2 t.hour ++ separator ++ lastDigits 2 t.minute := by
  rw [writeHourMinute, twoDigits_eq_lastDigits (t.hour_lt.trans (by decide)),
    twoDigits_eq_lastDigits (t.minute_lt.trans (by decide))]

theorem TimeOfDay.write_eq (separator : List Char) (t : TimeOfDay) :
    t.write separator = lastDigits 2 t.hour ++ separator ++ lastDigits 2 t.minute ++ separator
      ++ lastDigits 2 t.second := by
  rw [write, writeHourMinute_eq,
    twoDigits_eq_lastDigits (Nat.lt_of_le_of_lt t.second_le (by decide))]

/-- **The fixed tokens** stand for what the table says. -/
theorem FixedToken.expansion_eq_meaning (r : Revision) (token : FixedToken) :
    token.expansion r = token.meaning r := by
  have hhour : twoDigits r.time.time.hour = lastDigits 2 r.time.time.hour :=
    twoDigits_eq_lastDigits (r.time.time.hour_lt.trans (by decide))
  cases token <;>
    simp [expansion, meaning, layout, Shown.text, Date.write_eq, TimeOfDay.write_eq,
      TimeOfDay.writeHourMinute_eq, writeOffset_eq_offsetText r.time.offset_lt, hhour]

/-! ## Minutes -/

/-- The whole minutes of a span of nanoseconds in lowercase hexadecimal, with zeros before them up to
a least number of digits, and a sign if the span is negative and lasts a minute. -/
def minutesText (width : Nat) (nanoseconds : Int) : List Char :=
  let digits := Nat.toDigits 16 (nanoseconds.natAbs / 60000000000)
  (if nanoseconds ≤ -60000000000 then ['-'] else [])
    ++ (List.replicate (width - digits.length) '0' ++ digits)

/-- **Minutes** are those that go by on the calendar. -/
theorem writeMinutes_minutesSince (width : Nat) (t : Timestamp) (year : Int) :
    writeMinutes width (t.minutesSince year) = minutesText width (t.countedNanoseconds year) := by
  rw [Timestamp.minutesSince, t.nanosecondsSince_eq_countedNanoseconds year]
  generalize t.countedNanoseconds year = nanoseconds
  have hmagnitude : (nanoseconds.tdiv 60000000000).natAbs = nanoseconds.natAbs / 60000000000 :=
    Int.natAbs_tdiv nanoseconds 60000000000
  -- minutes are cut off towards zero, so less than one of them has no sign
  have hsign : nanoseconds.tdiv 60000000000 < 0 ↔ nanoseconds ≤ -60000000000 := by
    rcases Int.le_total 0 nanoseconds with h | h
    · rw [Int.tdiv_eq_ediv_of_nonneg h]
      omega
    · obtain ⟨n, rfl⟩ := Int.exists_eq_neg_ofNat h
      rw [Int.neg_tdiv, Int.tdiv_eq_ediv_of_nonneg (Int.natCast_nonneg n)]
      omega
  unfold writeMinutes minutesText
  rw [hmagnitude]
  by_cases hneg : nanoseconds ≤ -60000000000
  · rw [if_pos (hsign.2 hneg), if_pos hneg]
    rfl
  · rw [if_neg (mt hsign.1 hneg), if_neg hneg]
    rfl

end CommitStamp
