import CommitStamp.Proofs.Calendar.Chronology
import CommitStamp.Proofs.Template.Minutes
/-!
# Sorting by padded minutes

Minutes on a fixed number of digits sort as texts like the commits do in time. Runs of digits of one
length compare like their values (`ofDigits_lt_of_lex`), the value of a stamp is the count of
minutes (`render_paddedMinutes_eq`), and that count grows with the wall clock
(`countedMinutes_le_of_clock_le`). `render_paddedMinutes_order` puts the three together.
-/

namespace CommitStamp

open Text

/-! ## Runs of digits -/

namespace Text

variable {s t : List Char}

/-- A digit and its value. -/
theorem value_of_isLowerHexDigit {c : Char} (hc : isLowerHexDigit c = true) :
    ((48 ≤ c.toNat ∧ c.toNat ≤ 57) ∧ digitValue c + 48 = c.toNat) ∨
      ((97 ≤ c.toNat ∧ c.toNat ≤ 102) ∧ digitValue c + 87 = c.toNat) := by
  rw [isLowerHexDigit, Bool.or_eq_true, Bool.and_eq_true, decide_eq_true_iff,
    decide_eq_true_iff] at hc
  by_cases hdigit : isDigit c = true
  · have hrange := toNat_of_isDigit hdigit
    left
    rw [digitValue, if_pos hdigit]
    omega
  · obtain ⟨hlow, hhigh⟩ := hc.resolve_left hdigit
    have hlow' : 97 ≤ c.toNat := UInt32.le_iff_toNat_le.1 hlow
    have hhigh' : c.toNat ≤ 102 := UInt32.le_iff_toNat_le.1 hhigh
    have hletter : ¬c ≤ 'Z' := fun h => by
      have h' : c.toNat ≤ 90 := UInt32.le_iff_toNat_le.1 h
      omega
    right
    rw [digitValue, if_neg hdigit, if_neg hletter]
    omega

/-- Digits stand in the order of the numbers they stand for. -/
theorem digitValue_lt_of_lt {c d : Char} (hc : isLowerHexDigit c = true)
    (hd : isLowerHexDigit d = true) (h : c < d) : digitValue c < digitValue d := by
  have hlt : c.toNat < d.toNat := UInt32.lt_iff_toNat_lt.1 h
  rcases value_of_isLowerHexDigit hc with ⟨hc, hvc⟩ | ⟨hc, hvc⟩ <;>
    rcases value_of_isLowerHexDigit hd with ⟨hd, hvd⟩ | ⟨hd, hvd⟩ <;> omega

theorem digitValue_lt {c : Char} (hc : isLowerHexDigit c = true) : digitValue c < 16 := by
  rcases value_of_isLowerHexDigit hc with ⟨hc, hvc⟩ | ⟨hc, hvc⟩ <;> omega

/-- **Runs of digits of one length compare like their values**, character by character. -/
theorem ofDigits_lt_of_lex (hlen : s.length = t.length) (hs : ∀ c ∈ s, isLowerHexDigit c = true)
    (ht : ∀ c ∈ t, isLowerHexDigit c = true) (h : List.Lex (· < ·) s t) :
    ofDigits 16 s < ofDigits 16 t := by
  induction h with
  | nil => exact absurd hlen (by simp)
  | cons _ ih =>
    rw [List.forall_mem_cons] at hs ht
    have hlen' := Nat.succ.inj hlen
    rw [ofDigits_cons, ofDigits_cons, hlen']
    exact Nat.add_lt_add_left (ih hlen' hs.2 ht.2) _
  | @rel c s d t hcd =>
    -- the first digit outweighs all that follow
    rw [List.forall_mem_cons] at hs ht
    have hlen' : s.length = t.length := Nat.succ.inj hlen
    have hdigit : digitValue c + 1 ≤ digitValue d := digitValue_lt_of_lt hs.1 ht.1 hcd
    calc ofDigits 16 (c :: s)
        = 16 ^ s.length * digitValue c + ofDigits 16 s := ofDigits_cons 16 c s
      _ < 16 ^ s.length * digitValue c + 16 ^ s.length :=
        Nat.add_lt_add_left (ofDigits_lt fun e he => digitValue_lt (hs.2 e he)) _
      _ = 16 ^ t.length * (digitValue c + 1) := by rw [hlen', Nat.mul_succ]
      _ ≤ 16 ^ t.length * digitValue d := Nat.mul_le_mul_left _ hdigit
      _ ≤ 16 ^ t.length * digitValue d + ofDigits 16 t := Nat.le_add_right _ _
      _ = ofDigits 16 (d :: t) := (ofDigits_cons 16 d t).symm

variable {width m n : Nat}

theorem length_hexadecimal (hwidth : 0 < width) (h : n < 16 ^ width) :
    (hexadecimal width n).length = width :=
  length_leftpad_toDigits (by decide) hwidth h

theorem hexadecimal_injective (h : hexadecimal width m = hexadecimal width n) : m = n := by
  rw [← (Template.isHexadecimal_hexadecimal width m).value, h]
  exact (Template.isHexadecimal_hexadecimal width n).value

/-- Numbers that fit a width are written on it in their order. -/
theorem hexadecimal_le (hwidth : 0 < width) (hm : m < 16 ^ width) (hn : n < 16 ^ width)
    (h : m ≤ n) :
    String.ofList (hexadecimal width m) ≤ String.ofList (hexadecimal width n) := by
  rw [← String.not_lt]
  intro hlt
  rw [String.lt_iff, String.toList_ofList, String.toList_ofList] at hlt
  have hm' := Template.isHexadecimal_hexadecimal width m
  have hn' := Template.isHexadecimal_hexadecimal width n
  have hvalue := ofDigits_lt_of_lex
    ((length_hexadecimal hwidth hn).trans (length_hexadecimal hwidth hm).symm)
    hn'.isLowerHexDigit_of_mem hm'.isLowerHexDigit_of_mem hlt
  rw [hm'.value, hn'.value] at hvalue
  omega

end Text

/-! ## Minutes -/

namespace Timestamp

variable {t u : Timestamp} {year : Int}

/-- The whole minutes between 1 January of a year, 00:00, and a wall clock. -/
def countedMinutes (t : Timestamp) (year : Int) : Nat :=
  (t.countedNanoseconds year).natAbs / 60000000000

theorem countedMinutes_eq (t : Timestamp) (year : Int) :
    t.countedMinutes year = (t.nanosecondsSince year).natAbs / 60000000000 := by
  rw [countedMinutes, nanosecondsSince_eq_countedNanoseconds]

/-- After the start of the year, the part of a second does not change the minutes. -/
theorem countedMinutes_eq_of_clock_le (h : (startOfYear year).clock ≤ t.clock) :
    t.countedMinutes year = (t.secondsSince year).toNat / 60 := by
  have hpos : 0 ≤ t.secondsSince year := secondsSince_nonneg h
  have hpart := t.time.nanosecond_lt
  rw [countedMinutes_eq, nanosecondsSince]
  omega

theorem countedNanoseconds_nonneg (h : (startOfYear year).clock ≤ t.clock) :
    0 ≤ t.countedNanoseconds year := by
  have hpos : 0 ≤ t.secondsSince year := secondsSince_nonneg h
  rw [← nanosecondsSince_eq_countedNanoseconds, nanosecondsSince]
  omega

/-- After the start of the year, later wall clocks are no fewer minutes away from it. -/
theorem countedMinutes_le_of_clock_le (h : (startOfYear year).clock ≤ t.clock)
    (htu : t.clock ≤ u.clock) : t.countedMinutes year ≤ u.countedMinutes year := by
  have hle : t.secondsSince year ≤ u.secondsSince year := secondsSince_le_of_clock_le htu year
  rw [countedMinutes_eq_of_clock_le h, countedMinutes_eq_of_clock_le (h.trans htu)]
  omega

end Timestamp

/-! ## Stamps -/

namespace Template

theorem render_paddedMinutes_eq {r : Revision} {year : DigitRun 4 4} (width : DigitRun 1 2)
    (h : (Timestamp.startOfYear year.value).clock ≤ r.time.clock) :
    render (alone (.paddedMinutes year width)) r
      = String.ofList (hexadecimal width.value (r.time.countedMinutes year.value)) := by
  have hpos := Timestamp.countedNanoseconds_nonneg h
  rw [render_alone, WrittenDirective.meaning, minutesText, if_neg (by omega)]
  rfl

/-- **Stamps sort like commits.** On a width that both counts of minutes fit, stamps have that many
characters, the stamp of the earlier wall clock comes first, and stamps are the same only within a
minute. -/
theorem render_paddedMinutes_order (year : DigitRun 4 4) (width : DigitRun 1 2) (r s : Revision)
    (hwidth : 1 ≤ width.value)
    (hr : (Timestamp.startOfYear year.value).clock ≤ r.time.clock)
    (hs : (Timestamp.startOfYear year.value).clock ≤ s.time.clock)
    (hrfits : r.time.countedMinutes year.value < 16 ^ width.value)
    (hsfits : s.time.countedMinutes year.value < 16 ^ width.value) :
    let stamp := render (alone (.paddedMinutes year width))
    (stamp r).length = width.value ∧ (stamp s).length = width.value ∧
      (r.time.clock ≤ s.time.clock → stamp r ≤ stamp s) ∧
      (stamp r = stamp s ↔
        r.time.countedMinutes year.value = s.time.countedMinutes year.value) := by
  intro stamp
  have hstampr : stamp r = _ := render_paddedMinutes_eq width hr
  have hstamps : stamp s = _ := render_paddedMinutes_eq width hs
  rw [hstampr, hstamps]
  refine ⟨?_, ?_, ?_, ?_⟩
  · rw [String.length_ofList, length_hexadecimal hwidth hrfits]
  · rw [String.length_ofList, length_hexadecimal hwidth hsfits]
  · intro hclock
    exact hexadecimal_le hwidth hrfits hsfits (Timestamp.countedMinutes_le_of_clock_le hr hclock)
  · rw [String.ofList_inj]
    exact ⟨hexadecimal_injective, fun h => by rw [h]⟩

/-- A year to count minutes from. -/
def leapYear : DigitRun 4 4 :=
  ⟨"2012".toList, by decide, List.all_eq_true.1 (by decide)⟩

/-- A width that the minutes of a year fit. -/
def fiveDigits : DigitRun 1 2 :=
  ⟨"05".toList, by decide, List.all_eq_true.1 (by decide)⟩

/-- The last second of the leap year, a leap second. -/
def lastSecond : Revision where
  hash := .zero
  time := (do Timestamp.of? (← Date.of? 2012 12 31) (← TimeOfDay.of? 23 59 60) 3600).get
    (by decide)
  dirty := false

/-- The first second of the next year, at another offset. -/
def firstSecond : Revision where
  hash := .zero
  time := (do Timestamp.of? (← Date.of? 2013 1 1) (← TimeOfDay.of? 0 0 0) (-18000)).get
    (by decide)
  dirty := true

/-- The two seconds are stamped alike. -/
theorem render_paddedMinutes_order_lastSecond :
    let stamp := render (alone (.paddedMinutes leapYear fiveDigits))
    (stamp lastSecond).length = 5 ∧ stamp lastSecond ≤ stamp firstSecond ∧
      stamp lastSecond = stamp firstSecond := by
  obtain ⟨hlength, -, hsorted, hsame⟩ :=
    render_paddedMinutes_order leapYear fiveDigits lastSecond firstSecond (by decide) (by decide)
      (by decide) (by rw [Timestamp.countedMinutes_eq]; decide)
      (by rw [Timestamp.countedMinutes_eq]; decide)
  have hclock : lastSecond.time.clock ≤ firstSecond.time.clock := by decide
  have hminutes : lastSecond.time.countedMinutes 2012 = firstSecond.time.countedMinutes 2012 := by
    rw [Timestamp.countedMinutes_eq, Timestamp.countedMinutes_eq]
    decide
  exact ⟨hlength, hsorted hclock, hsame.2 hminutes⟩

end Template

end CommitStamp
