import CommitStamp.Proofs.Calendar.Days
import CommitStamp.Proofs.Template.Composition
import CommitStamp.Proofs.Text.Numeral
/-!
# What the minutes of a commit are written as

The directives for minutes are replaced by a sign, if there are whole minutes before the year, and
a hexadecimal magnitude. `IsHexadecimal` says what that magnitude looks like without saying how it
is made, and `Timestamp.countedNanoseconds` what it counts. `render_minutes` puts the two together.
-/

namespace CommitStamp.Template

open Text

/-! ## Magnitudes -/

/-- The text is `n` in lowercase hexadecimal, on as few digits as possible but at least `width` and
at least one. -/
structure IsHexadecimal (width n : Nat) (s : List Char) : Prop where
  isLowerHexDigit_of_mem : ∀ c ∈ s, isLowerHexDigit c = true
  value : ofDigits 16 s = n
  le_length : max width 1 ≤ s.length
  /-- There is no zero before the number that the width does not ask for. -/
  head?_ne : max width 1 < s.length → s.head? ≠ some '0'

theorem isHexadecimal_hexadecimal (width n : Nat) :
    IsHexadecimal width n (hexadecimal width n) := by
  have heq : hexadecimal width n
      = List.replicate (width - (Nat.toDigits 16 n).length) '0' ++ Nat.toDigits 16 n := rfl
  have hpos : 0 < (Nat.toDigits 16 n).length := Nat.length_toDigits_pos
  constructor
  · intro c hc
    rw [heq, List.mem_append] at hc
    rcases hc with hc | hc
    · rw [List.eq_of_mem_replicate hc]
      rfl
    · exact isLowerHexDigit_of_mem_toDigits (by decide) (by decide) hc
  · rw [heq, ofDigits_replicate_append, ofDigits_toDigits (by decide) (by decide)]
  · rw [heq, List.length_append, List.length_replicate]
    omega
  · intro hlong
    -- the digits alone are more than the width, so nothing stands before them, and they are not
    -- the single zero
    rw [heq, List.length_append, List.length_replicate] at hlong
    have hnone : width - (Nat.toDigits 16 n).length = 0 := by omega
    have hn : n ≠ 0 := by
      intro hzero
      rw [hzero] at hlong
      have hone : (Nat.toDigits 16 0).length = 1 := rfl
      omega
    rw [heq, hnone, List.replicate_zero, List.nil_append]
    exact head?_toDigits_ne (by decide) (by decide) hn

/-! ## Spans -/

/-- The text tells the whole minutes of a span of nanoseconds: a sign if there is at least one
minute and the span is negative, and the magnitude. -/
def TellsMinutes (width : Nat) (nanoseconds : Int) (s : List Char) : Prop :=
  ∃ digits, IsHexadecimal width (nanoseconds.natAbs / 60000000000) digits ∧
    s = (if nanoseconds ≤ -60000000000 then ['-'] else []) ++ digits

theorem tellsMinutes_minutesText (width : Nat) (nanoseconds : Int) :
    TellsMinutes width nanoseconds (minutesText width nanoseconds) :=
  ⟨_, isHexadecimal_hexadecimal _ _, rfl⟩

/-! ## Directives -/

/-- The template that is just this directive. -/
def alone (w : WrittenDirective) : String :=
  String.ofList (group w.body)

theorem render_alone (r : Revision) (w : WrittenDirective) :
    render (alone w) r = String.ofList (w.meaning r) := by
  have hexpand : expand r (group w.body) = w.meaning r := expandBy_group w.directive_mem_order
  rw [render, alone, String.toList_ofList, hexpand]

/-- **Minutes since the start of a year** are the minutes that go by on the calendar until the wall
clock of the commit, in whatever year that is, with the part of a second that it shows. Without a
width they are written as with the width 1. The offset from UTC has no part in them. -/
theorem render_minutes (r : Revision) (year : DigitRun 4 4) (width : DigitRun 1 2) :
    TellsMinutes width.value (r.time.countedNanoseconds year.value)
        (render (alone (.paddedMinutes year width)) r).toList ∧
      TellsMinutes 1 (r.time.countedNanoseconds year.value)
        (render (alone (.minutes year)) r).toList ∧
      ∀ t : Timestamp,
        let elsewhere : Revision :=
          { r with time := { r.time with offset := t.offset, offset_lt := t.offset_lt } }
        render (alone (.paddedMinutes year width)) elsewhere
            = render (alone (.paddedMinutes year width)) r ∧
          render (alone (.minutes year)) elsewhere = render (alone (.minutes year)) r := by
  refine ⟨?_, ?_, ?_⟩
  · rw [render_alone, String.toList_ofList]
    exact tellsMinutes_minutesText width.value _
  · rw [render_alone, String.toList_ofList]
    exact tellsMinutes_minutesText 1 _
  · intro t elsewhere
    have hspan : elsewhere.time.countedNanoseconds year.value
        = r.time.countedNanoseconds year.value := rfl
    constructor
    · rw [render_alone, render_alone, WrittenDirective.meaning, WrittenDirective.meaning, hspan]
    · rw [render_alone, render_alone, WrittenDirective.meaning, WrittenDirective.meaning, hspan]

/-- A minute less half a second before the year is not yet a minute. -/
example :
    (do
      let time ← Timestamp.of? (← Date.of? 2025 12 31) (← TimeOfDay.of? 23 59 0 500000000) 3600
      return render "\x7bxmin:2026\x7d" (.sentinel time)) = some "0" := by
  decide +kernel

end CommitStamp.Template
