import CommitStamp.Proofs.Template.Substitution
import CommitStamp.Proofs.Template.Table
/-!
# Directives as they are written

`Directive.expand?` reads the body of a group. Here the other direction is spelt out: a
`WrittenDirective` is a directive together with its parameter, `body` is how it is written and
`meaning` what it stands for by the table of directives. `Directive.expand?_eq_some_iff` says that a
directive recognises exactly the bodies of its written forms, and `WrittenDirective.body_injective`
that no body belongs to two of them.

What an expansion consists of is said by `expand?_stampChars_or_suffix`: a few harmless characters,
or a part of the body that was there before.
-/

namespace CommitStamp

open Text

/-! ## The characters of expansions -/

/-- The characters that hashes, dates, times and numbers are written with. -/
def isStampChar (c : Char) : Bool :=
  isLowerHexDigit c || "!+-:".toList.contains c

theorem isStampChar_of_isLowerHexDigit {c : Char} (h : isLowerHexDigit c = true) :
    isStampChar c = true := by
  rw [isStampChar, h, Bool.true_or]

theorem isLowerHexDigit_digitChar {n : Nat} (h : n < 16) : isLowerHexDigit n.digitChar = true := by
  revert n
  decide

/-- Numbers to a base of at most sixteen are written with lowercase digits. -/
theorem isLowerHexDigit_of_mem_toDigits {b n : Nat} {c : Char} (hb : 1 < b) (hb' : b ≤ 16)
    (hc : c ∈ Nat.toDigits b n) : isLowerHexDigit c = true := by
  -- the digits of a number are those of its quotient by the base, and one more
  induction n using Nat.strongRecOn with
  | ind n ih =>
    rw [Nat.toDigits_eq_if hb] at hc
    split at hc
    · next hn =>
      rw [List.mem_singleton] at hc
      exact hc ▸ isLowerHexDigit_digitChar (by omega)
    · next hn =>
      rcases List.mem_append.1 hc with hc | hc
      · exact ih (n / b) (Nat.div_lt_self (by omega) hb) hc
      · rw [List.mem_singleton] at hc
        have hlt : n % b < b := Nat.mod_lt n (by omega)
        exact hc ▸ isLowerHexDigit_digitChar (by omega)

theorem isStampChar_of_mem_leftpad {b n width : Nat} {c : Char} (hb : 1 < b) (hb' : b ≤ 16)
    (hc : c ∈ (Nat.toDigits b n).leftpad width '0') : isStampChar c = true := by
  rw [List.leftpad, List.mem_append] at hc
  refine isStampChar_of_isLowerHexDigit ?_
  rcases hc with hc | hc
  · rw [List.eq_of_mem_replicate hc]
    decide
  · exact isLowerHexDigit_of_mem_toDigits hb hb' hc

theorem isStampChar_of_mem_decimal {n width : Nat} {c : Char} (hc : c ∈ decimal width n) :
    isStampChar c = true :=
  isStampChar_of_mem_leftpad (by decide) (by decide) hc

theorem isStampChar_of_mem_writeMinutes {width : Nat} {m : Int} {c : Char}
    (hc : c ∈ writeMinutes width m) : isStampChar c = true := by
  have hhex : ∀ n, c ∈ hexadecimal width n → isStampChar c = true := fun n h =>
    isStampChar_of_mem_leftpad (by decide) (by decide) h
  rw [writeMinutes] at hc
  split at hc
  · rcases List.mem_cons.1 hc with rfl | hc
    · decide
    · exact hhex _ hc
  · exact hhex _ hc

theorem isStampChar_of_mem_writeYear {year : Int} {c : Char} (hc : c ∈ writeYear year) :
    isStampChar c = true := by
  rw [writeYear] at hc
  split at hc
  · exact isStampChar_of_mem_decimal hc
  · rcases List.mem_cons.1 hc with hc | hc
    · rw [hc]
      split <;> decide
    · exact isStampChar_of_mem_decimal hc

theorem isStampChar_of_mem_writeOffset {offset : Int} {c : Char} (hc : c ∈ writeOffset offset) :
    isStampChar c = true := by
  rw [writeOffset, List.mem_cons, List.mem_append] at hc
  rcases hc with hc | hc | hc
  · rw [hc]
    split <;> decide
  · exact isStampChar_of_mem_decimal hc
  · exact isStampChar_of_mem_decimal hc

theorem isStampChar_of_mem_digits {h : CommitHash} {c : Char} (hc : c ∈ h.digits) :
    isStampChar c = true :=
  isStampChar_of_isLowerHexDigit (h.digits_hex c hc)

/-- A date is written with harmless characters if its separator is. -/
theorem isStampChar_of_mem_date {separator : List Char} {d : Date} {c : Char}
    (hs : ∀ c ∈ separator, isStampChar c = true) (hc : c ∈ d.write separator) :
    isStampChar c = true := by
  simp only [Date.write, List.mem_append] at hc
  rcases hc with (((hc | hc) | hc) | hc) | hc
  · exact isStampChar_of_mem_writeYear hc
  · exact hs c hc
  · exact isStampChar_of_mem_decimal hc
  · exact hs c hc
  · exact isStampChar_of_mem_decimal hc

theorem isStampChar_of_mem_hourMinute {separator : List Char} {t : TimeOfDay} {c : Char}
    (hs : ∀ c ∈ separator, isStampChar c = true) (hc : c ∈ t.writeHourMinute separator) :
    isStampChar c = true := by
  simp only [TimeOfDay.writeHourMinute, List.mem_append] at hc
  rcases hc with (hc | hc) | hc
  · exact isStampChar_of_mem_decimal hc
  · exact hs c hc
  · exact isStampChar_of_mem_decimal hc

theorem isStampChar_of_mem_time {separator : List Char} {t : TimeOfDay} {c : Char}
    (hs : ∀ c ∈ separator, isStampChar c = true) (hc : c ∈ t.write separator) :
    isStampChar c = true := by
  simp only [TimeOfDay.write, List.mem_append] at hc
  rcases hc with (hc | hc) | hc
  · exact isStampChar_of_mem_hourMinute hs hc
  · exact hs c hc
  · exact isStampChar_of_mem_decimal hc

/-- The fixed tokens stand for harmless characters. -/
theorem FixedToken.isStampChar_of_mem_expansion {r : Revision} {token : FixedToken} {c : Char}
    (hc : c ∈ token.expansion r) : isStampChar c = true := by
  have hnone : ∀ c ∈ ([] : List Char), isStampChar c = true := by simp
  have hdash : ∀ c ∈ ['-'], isStampChar c = true := List.forall_mem_singleton.2 (by decide)
  have hcolon : ∀ c ∈ [':'], isStampChar c = true := List.forall_mem_singleton.2 (by decide)
  cases token with
  | dirtyMark =>
    have hmark : c = '!' := by
      revert hc
      cases hd : r.dirty <;> simp [expansion, hd]
    rw [hmark]
    decide
  | commit => exact isStampChar_of_mem_digits hc
  | date => exact isStampChar_of_mem_date hnone hc
  | dashedDate => exact isStampChar_of_mem_date hdash hc
  | time => exact isStampChar_of_mem_time hnone hc
  | hourMinuteSecond => exact isStampChar_of_mem_time hnone hc
  | colonTime => exact isStampChar_of_mem_time hcolon hc
  | hourMinute => exact isStampChar_of_mem_hourMinute hnone hc
  | colonHourMinute => exact isStampChar_of_mem_hourMinute hcolon hc
  | hour => exact isStampChar_of_mem_decimal hc
  | offset => exact isStampChar_of_mem_writeOffset hc

/-- **What expansions consist of.** An expansion is written with harmless characters, or it is the
end of the body that it replaces. -/
theorem Directive.expand?_stampChars_or_suffix {r : Revision} {d : Directive} {body t : List Char}
    (h : d.expand? r body = some t) : (∀ c ∈ t, isStampChar c = true) ∨ t <:+ body := by
  cases d with
  | fixed token =>
    rw [expand?] at h
    split at h
    · obtain rfl := Option.some.inj h
      exact .inl fun c hc => token.isStampChar_of_mem_expansion hc
    · exact absurd h (by simp)
  | dirtyText =>
    simp only [expand?, Option.bind_eq_bind, Option.bind_eq_some_iff, Option.pure_def,
      Option.some.injEq] at h
    obtain ⟨text, htext, rfl⟩ := h
    split
    · exact .inr ⟨_, (after?_eq_some_iff.1 htext).symm⟩
    · exact .inl (by simp)
  | hashPrefix =>
    simp only [expand?, Option.bind_eq_bind, Option.bind_eq_some_iff, Option.pure_def,
      Option.some.injEq] at h
    obtain ⟨_, _, n, _, rfl⟩ := h
    exact .inl fun c hc => isStampChar_of_mem_digits (List.mem_of_mem_take hc)
  | minutes =>
    simp only [expand?, Option.bind_eq_bind, Option.bind_eq_some_iff, Option.pure_def,
      Option.some.injEq] at h
    obtain ⟨_, _, year, _, rfl⟩ := h
    exact .inl fun c hc => isStampChar_of_mem_writeMinutes hc
  | paddedMinutes =>
    simp only [expand?, Option.bind_eq_bind, Option.bind_eq_some_iff, Option.pure_def,
      Option.some.injEq] at h
    obtain ⟨_, _, ⟨year, width⟩, _, rfl⟩ := h
    exact .inl fun c hc => isStampChar_of_mem_writeMinutes hc

/-- A character without a property is not among characters that all have it. -/
theorem not_mem_of_forall {p : Char → Bool} {s : List Char} {d : Char}
    (hs : ∀ c ∈ s, p c = true) (hd : p d = false) : d ∉ s := by
  intro hmem
  rw [hs d hmem] at hd
  exact absurd hd (by simp)

theorem Directive.opensNoMore (r : Revision) (d : Directive) :
    Template.OpensNoMore (d.expand? r) := by
  intro body t _ ht
  rcases d.expand?_stampChars_or_suffix ht with hstamp | hsuffix
  · have hopen : '{' ∉ t := not_mem_of_forall hstamp (by decide)
    rw [List.count_eq_zero.2 hopen]
    exact Nat.zero_le _
  · exact hsuffix.sublist.count_le '{'

/-! ## Written forms -/

/-- A text without braces. -/
structure BraceFree where
  chars : List Char
  no_opening : '{' ∉ chars
  no_closing : '}' ∉ chars

/-- A run of at least `least` and at most `most` decimal digits. -/
structure DigitRun (least most : Nat) where
  digits : List Char
  length_mem : least ≤ digits.length ∧ digits.length ≤ most
  isDigit_of_mem : ∀ c ∈ digits, isDigit c = true

/-- The number that a run of digits writes. -/
def DigitRun.value {least most : Nat} (d : DigitRun least most) : Nat :=
  ofDecimal d.digits

/-- A directive with its parameter. -/
inductive WrittenDirective where
  | fixed (token : FixedToken)
  | dirtyText (text : BraceFree)
  /-- A number of hash digits, without a leading zero. -/
  | hashPrefix (n : Nat) (hn : 5 ≤ n ∧ n ≤ hashLength)
  | minutes (year : DigitRun 4 4)
  | paddedMinutes (year : DigitRun 4 4) (width : DigitRun 1 2)

namespace WrittenDirective

/-- The directive without its parameter. -/
def directive : WrittenDirective → Directive
  | fixed token => .fixed token
  | dirtyText _ => .dirtyText
  | hashPrefix _ _ => .hashPrefix
  | minutes _ => .minutes
  | paddedMinutes _ _ => .paddedMinutes

/-- The text between the braces. -/
def body : WrittenDirective → List Char
  | fixed token => token.body
  | dirtyText text => ['!', ':'] ++ text.chars
  | hashPrefix n _ => "commit:".toList ++ Nat.toDigits 10 n
  | minutes year => "xmin:".toList ++ year.digits
  | paddedMinutes year width => "xmin:".toList ++ (year.digits ++ ':' :: width.digits)

/-- What the directive stands for. -/
def meaning (r : Revision) : WrittenDirective → List Char
  | fixed token => token.meaning r
  | dirtyText text => if r.dirty then text.chars else []
  | hashPrefix n _ => r.hash.digits.take n
  | minutes year => minutesText 1 (r.time.countedNanoseconds year.value)
  | paddedMinutes year width => minutesText width.value (r.time.countedNanoseconds year.value)

end WrittenDirective

theorem FixedToken.mem_all (t : FixedToken) : t ∈ all := by
  cases t <;> decide

theorem WrittenDirective.directive_mem_order (w : WrittenDirective) :
    w.directive ∈ Directive.order := by
  rw [Directive.order, List.mem_append]
  cases w with
  | fixed t => exact .inl (List.mem_map_of_mem t.mem_all)
  | _ => exact .inr (by simp [directive])

/-! ## Reading a body -/

theorem ofDecimal?_eq_some_iff {s : List Char} {n : Nat} :
    ofDecimal? s = some n ↔ s ≠ [] ∧ (∀ c ∈ s, isDigit c = true) ∧ ofDecimal s = n := by
  rw [ofDecimal?]
  split
  · next h =>
    simp only [Bool.and_eq_true, Bool.not_eq_true', List.isEmpty_eq_false_iff,
      List.all_eq_true] at h
    exact ⟨fun hn => ⟨h.1, h.2, Option.some.inj hn⟩, fun ⟨_, _, hn⟩ => congrArg some hn⟩
  · next h =>
    simp only [Bool.and_eq_true, Bool.not_eq_true', List.isEmpty_eq_false_iff,
      List.all_eq_true] at h
    constructor
    · intro hn
      exact absurd hn (by simp)
    · rintro ⟨hne, hdigits, -⟩
      exact absurd ⟨hne, hdigits⟩ h

theorem prefixLength?_eq_some_iff {s : List Char} {n : Nat} :
    prefixLength? s = some n ↔ (5 ≤ n ∧ n ≤ hashLength) ∧ s = Nat.toDigits 10 n := by
  constructor
  · intro h
    simp only [prefixLength?] at h
    split at h
    · split at h
      · next hn =>
        obtain rfl := Option.some.inj h
        exact ⟨⟨hn.1, hn.2.1⟩, hn.2.2⟩
      · exact absurd h (by simp)
    · exact absurd h (by simp)
  · rintro ⟨hn, rfl⟩
    -- no number of digits that is in range takes more than two digits itself
    have hlen : (Nat.toDigits 10 n).length ≤ 2 := by
      rw [Nat.length_toDigits_le_iff (by decide) (by decide)]
      exact Nat.lt_of_le_of_lt hn.2 (by decide)
    have hval : ofDecimal (Nat.toDigits 10 n) = n := Nat.ofDigitChars_ten_toDigits
    have hdrop : ((Nat.toDigits 10 n).drop 2).isEmpty = true := by
      rw [List.drop_eq_nil_of_le hlen]
      rfl
    simp only [prefixLength?, hdrop, hval]
    simp [hn.1, hn.2]

theorem minutesYear?_eq_some_iff {s : List Char} {y : Int} :
    minutesYear? s = some y ↔ ∃ year : DigitRun 4 4, year.digits = s ∧ (year.value : Int) = y := by
  constructor
  · intro h
    match s, h with
    | [a, b, c, d], h =>
      obtain ⟨n, hn, rfl⟩ := Option.map_eq_some_iff.1 h
      obtain ⟨-, hdigits, rfl⟩ := ofDecimal?_eq_some_iff.1 hn
      exact ⟨⟨[a, b, c, d], ⟨by simp, by simp⟩, hdigits⟩, rfl, rfl⟩
  · rintro ⟨⟨digits, hlen, hdigits⟩, rfl, rfl⟩
    match digits, hlen with
    | [a, b, c, d], _ =>
      have hn := ofDecimal?_eq_some_iff.2 ⟨List.cons_ne_nil a [b, c, d], hdigits, rfl⟩
      exact Option.map_eq_some_iff.2 ⟨_, hn, rfl⟩

theorem minutesYearWidth?_eq_some_iff {s : List Char} {y : Int} {w : Nat} :
    minutesYearWidth? s = some (y, w) ↔
      ∃ (year : DigitRun 4 4) (width : DigitRun 1 2),
        year.digits ++ ':' :: width.digits = s ∧ (year.value : Int) = y ∧ width.value = w := by
  simp only [minutesYearWidth?, Option.bind_eq_bind, Option.bind_eq_some_iff,
    minutesYear?_eq_some_iff, after?_eq_some_iff]
  constructor
  · rintro ⟨y', ⟨year, hyear, rfl⟩, text, hs, h⟩
    split at h
    · next hshort =>
      obtain ⟨n, hn, heq⟩ := Option.bind_eq_some_iff.1 h
      obtain ⟨rfl, rfl⟩ := Prod.mk.inj (Option.some.inj heq)
      obtain ⟨hne, hdigits, rfl⟩ := ofDecimal?_eq_some_iff.1 hn
      have hlen : text.length ≤ 2 := by simpa using hshort
      have hpos : 1 ≤ text.length := List.length_pos_iff.2 hne
      refine ⟨year, ⟨text, ⟨hpos, hlen⟩, hdigits⟩, ?_, rfl, rfl⟩
      rw [hyear, show ':' :: text = s.drop 4 from hs.symm, List.take_append_drop]
    · exact absurd h (by simp)
  · rintro ⟨year, width, rfl, rfl, rfl⟩
    -- the year ends where four digits do, whatever the width is
    have hlen : year.digits.length = 4 := Nat.le_antisymm year.length_mem.2 year.length_mem.1
    have htake : (year.digits ++ ':' :: width.digits).take 4 = year.digits :=
      List.take_left' hlen
    have hdrop : (year.digits ++ ':' :: width.digits).drop 4 = ':' :: width.digits :=
      List.drop_left' hlen
    have hne : width.digits ≠ [] := List.length_pos_iff.1 width.length_mem.1
    refine ⟨_, ⟨year, htake.symm, rfl⟩, width.digits, hdrop, ?_⟩
    rw [if_pos (by simpa using width.length_mem.2),
      ofDecimal?_eq_some_iff.2 ⟨hne, width.isDigit_of_mem, rfl⟩]
    rfl

/-- A directive recognises its written forms. -/
theorem WrittenDirective.expand?_body (r : Revision) (w : WrittenDirective) :
    w.directive.expand? r w.body = some (w.meaning r) := by
  have hafter : ∀ token s : List Char, after? token (token ++ s) = some s := fun _ _ =>
    after?_eq_some_iff.2 rfl
  cases w with
  | fixed token => exact (if_pos rfl).trans (congrArg some (token.expansion_eq_meaning r))
  | dirtyText text =>
    show (after? ['!', ':'] (['!', ':'] ++ text.chars) >>= _) = _
    rw [hafter]
    rfl
  | hashPrefix n hn =>
    show (after? "commit:".toList ("commit:".toList ++ Nat.toDigits 10 n) >>= _) = _
    rw [hafter]
    show (prefixLength? (Nat.toDigits 10 n) >>= _) = _
    rw [prefixLength?_eq_some_iff.2 ⟨hn, rfl⟩]
    rfl
  | minutes year =>
    show (after? "xmin:".toList ("xmin:".toList ++ year.digits) >>= _) = _
    rw [hafter]
    show (minutesYear? year.digits >>= _) = _
    rw [minutesYear?_eq_some_iff.2 ⟨year, rfl, rfl⟩]
    exact congrArg some (writeMinutes_minutesSince 1 r.time year.value)
  | paddedMinutes year width =>
    show (after? "xmin:".toList ("xmin:".toList ++ (year.digits ++ ':' :: width.digits)) >>= _) = _
    rw [hafter]
    show (minutesYearWidth? (year.digits ++ ':' :: width.digits) >>= _) = _
    rw [minutesYearWidth?_eq_some_iff.2 ⟨year, width, rfl, rfl, rfl⟩]
    exact congrArg some (writeMinutes_minutesSince width.value r.time year.value)

/-- A directive recognises its written forms, and the one for dirty trees also a text that opens
groups of its own. -/
theorem Directive.expand?_cases {r : Revision} {d : Directive} {body t : List Char}
    (h : d.expand? r body = some t) :
    (∃ w : WrittenDirective, w.directive = d ∧ w.body = body ∧ w.meaning r = t) ∨
      d = .dirtyText ∧ ∃ text, body = ['!', ':'] ++ text ∧ (if r.dirty then text else []) = t := by
  cases d with
  | fixed token =>
    rw [expand?] at h
    split at h
    · next hbody =>
      rw [token.expansion_eq_meaning] at h
      exact .inl ⟨.fixed token, rfl, hbody.symm, Option.some.inj h⟩
    · exact absurd h (by simp)
  | dirtyText =>
    simp only [expand?, Option.bind_eq_bind, Option.bind_eq_some_iff, Option.pure_def,
      Option.some.injEq, after?_eq_some_iff] at h
    obtain ⟨text, rfl, rfl⟩ := h
    exact .inr ⟨rfl, text, rfl, rfl⟩
  | hashPrefix =>
    simp only [expand?, Option.bind_eq_bind, Option.bind_eq_some_iff, Option.pure_def,
      Option.some.injEq, after?_eq_some_iff, prefixLength?_eq_some_iff] at h
    obtain ⟨_, rfl, n, ⟨hn, rfl⟩, rfl⟩ := h
    exact .inl ⟨.hashPrefix n hn, rfl, rfl, rfl⟩
  | minutes =>
    simp only [expand?, Option.bind_eq_bind, Option.bind_eq_some_iff, Option.pure_def,
      Option.some.injEq, after?_eq_some_iff, minutesYear?_eq_some_iff] at h
    obtain ⟨_, rfl, _, ⟨year, rfl, rfl⟩, rfl⟩ := h
    exact .inl ⟨.minutes year, rfl, rfl, (writeMinutes_minutesSince 1 r.time year.value).symm⟩
  | paddedMinutes =>
    simp only [expand?, Option.bind_eq_bind, Option.bind_eq_some_iff, Option.pure_def,
      Option.some.injEq, after?_eq_some_iff] at h
    obtain ⟨_, rfl, ⟨y, n⟩, hw, rfl⟩ := h
    obtain ⟨year, width, rfl, rfl, rfl⟩ := minutesYearWidth?_eq_some_iff.1 hw
    exact .inl ⟨.paddedMinutes year width, rfl, rfl,
      (writeMinutes_minutesSince width.value r.time year.value).symm⟩

/-- **What a directive recognises.** Of the bodies without braces, exactly those of its written
forms, and it expands each to its meaning. -/
theorem Directive.expand?_eq_some_iff {r : Revision} {d : Directive} {body t : List Char}
    (ho : '{' ∉ body) (hc : '}' ∉ body) :
    d.expand? r body = some t ↔
      ∃ w : WrittenDirective, w.directive = d ∧ w.body = body ∧ w.meaning r = t := by
  constructor
  · intro h
    rcases Directive.expand?_cases h with hw | ⟨rfl, text, rfl, rfl⟩
    · exact hw
    · have ho' : '{' ∉ text := fun hm => ho (List.mem_append_right _ hm)
      have hc' : '}' ∉ text := fun hm => hc (List.mem_append_right _ hm)
      exact ⟨.dirtyText ⟨text, ho', hc'⟩, rfl, rfl, rfl⟩
  · rintro ⟨w, rfl, rfl, rfl⟩
    exact w.expand?_body r

/-! ## Bodies and meanings -/

theorem DigitRun.ext {least most : Nat} {a b : DigitRun least most} (h : a.digits = b.digits) :
    a = b := by
  cases a; cases b; cases h; rfl

theorem FixedToken.body_injective {a b : FixedToken} (h : a.body = b.body) : a = b := by
  cases a <;> cases b <;> first | rfl | exact absurd h (by decide)

/-- The bodies of fixed tokens do not start like those of the other directives. -/
theorem FixedToken.body_ne_append (token : FixedToken) {start : List Char}
    (hs : start ∈ [['!', ':'], "commit:".toList, "xmin:".toList]) (s : List Char) :
    token.body ≠ start ++ s := by
  have hnone : ∀ start ∈ [['!', ':'], "commit:".toList, "xmin:".toList],
      after? start token.body = none := by
    cases token <;> decide
  intro h
  have hsome := after?_eq_some_iff.2 h
  rw [hnone start hs] at hsome
  exact absurd hsome (by simp)

namespace WrittenDirective

@[simp] theorem body_fixed (token : FixedToken) : (fixed token).body = token.body := rfl

@[simp] theorem body_dirtyText (text : BraceFree) :
    (dirtyText text).body = ['!', ':'] ++ text.chars := rfl

@[simp] theorem body_hashPrefix (n : Nat) (hn : 5 ≤ n ∧ n ≤ hashLength) :
    (hashPrefix n hn).body = "commit:".toList ++ Nat.toDigits 10 n := rfl

@[simp] theorem body_minutes (year : DigitRun 4 4) :
    (minutes year).body = "xmin:".toList ++ year.digits := rfl

@[simp] theorem body_paddedMinutes (year : DigitRun 4 4) (width : DigitRun 1 2) :
    (paddedMinutes year width).body = "xmin:".toList ++ (year.digits ++ ':' :: width.digits) := rfl

/-- Only the body of a fixed token is the body of a fixed token. -/
theorem eq_fixed_of_body_eq {w : WrittenDirective} {token : FixedToken} (h : w.body = token.body) :
    w = fixed token := by
  cases w with
  | fixed a => rw [FixedToken.body_injective h]
  | dirtyText => exact absurd h.symm (token.body_ne_append (by simp) _)
  | hashPrefix => exact absurd h.symm (token.body_ne_append (by simp) _)
  | minutes => exact absurd h.symm (token.body_ne_append (by simp) _)
  | paddedMinutes => exact absurd h.symm (token.body_ne_append (by simp) _)

/-- The two forms of minutes differ in length. -/
theorem body_minutes_ne (a b : DigitRun 4 4) (n : DigitRun 1 2) :
    (minutes a).body ≠ (paddedMinutes b n).body := by
  intro h
  have ha := a.length_mem
  have hb := b.length_mem
  have hlen := congrArg List.length h
  simp only [body_minutes, body_paddedMinutes, List.length_append, List.length_cons] at hlen
  omega

/-- **A body is read in one way only.** -/
theorem body_injective {v w : WrittenDirective} (h : v.body = w.body) : v = w := by
  cases v with
  | fixed a => exact (eq_fixed_of_body_eq h.symm).symm
  | dirtyText a =>
    cases w with
    | fixed b => exact eq_fixed_of_body_eq h
    | dirtyText b =>
      obtain ⟨a, _, _⟩ := a
      obtain ⟨b, _, _⟩ := b
      simp only [body_dirtyText, List.append_cancel_left_eq] at h
      subst h
      rfl
    | _ => simp at h
  | hashPrefix m hm =>
    cases w with
    | fixed b => exact eq_fixed_of_body_eq h
    | hashPrefix n hn =>
      simp only [body_hashPrefix, List.append_cancel_left_eq] at h
      have hmn := congrArg (Nat.ofDigitChars 10 · 0) h
      simp only [Nat.ofDigitChars_ten_toDigits] at hmn
      subst hmn
      rfl
    | _ => simp at h
  | minutes a =>
    cases w with
    | fixed b => exact eq_fixed_of_body_eq h
    | minutes b =>
      simp only [body_minutes, List.append_cancel_left_eq] at h
      rw [DigitRun.ext h]
    | paddedMinutes b n => exact absurd h (body_minutes_ne a b n)
    | _ => simp at h
  | paddedMinutes a m =>
    cases w with
    | fixed b => exact eq_fixed_of_body_eq h
    | minutes b => exact absurd h.symm (body_minutes_ne b a m)
    | paddedMinutes b n =>
      have ha := a.length_mem
      have hb := b.length_mem
      simp only [body_paddedMinutes, List.append_cancel_left_eq] at h
      obtain ⟨hyear, hwidth⟩ := List.append_inj h (by omega)
      rw [DigitRun.ext hyear, DigitRun.ext (List.cons.inj hwidth).2]
    | _ => simp at h

theorem not_mem_body {c : Char} (hc : c = '{' ∨ c = '}') (w : WrittenDirective) : c ∉ w.body := by
  have hdigit : isDigit c = false := by rcases hc with rfl | rfl <;> decide
  have hhex : isLowerHexDigit c = false := by rcases hc with rfl | rfl <;> decide
  have hcommit : c ∉ "commit:".toList := by rcases hc with rfl | rfl <;> decide
  have hxmin : c ∉ "xmin:".toList := by rcases hc with rfl | rfl <;> decide
  have hcolon : c ≠ ':' := by rcases hc with rfl | rfl <;> decide
  have hrun : ∀ {least most : Nat} (d : DigitRun least most), c ∉ d.digits := fun d =>
    not_mem_of_forall d.isDigit_of_mem hdigit
  cases w with
  | fixed token => rcases hc with rfl | rfl <;> cases token <;> decide
  | dirtyText text =>
    have htext : c ∉ text.chars := by
      rcases hc with rfl | rfl
      · exact text.no_opening
      · exact text.no_closing
    have hmark : c ≠ '!' := by rcases hc with rfl | rfl <;> decide
    simp [hmark, hcolon, htext]
  | hashPrefix n hn =>
    have hn : c ∉ Nat.toDigits 10 n :=
      not_mem_of_forall (fun d hd => isLowerHexDigit_of_mem_toDigits (by decide) (by decide) hd)
        hhex
    rw [body_hashPrefix, List.mem_append]
    exact not_or.2 ⟨hcommit, hn⟩
  | minutes year =>
    rw [body_minutes, List.mem_append]
    exact not_or.2 ⟨hxmin, hrun year⟩
  | paddedMinutes year width =>
    rw [body_paddedMinutes, List.mem_append, List.mem_append, List.mem_cons]
    exact not_or.2 ⟨hxmin, not_or.2 ⟨hrun year, not_or.2 ⟨hcolon, hrun width⟩⟩⟩

theorem not_mem_meaning {c : Char} (hc : c = '{' ∨ c = '}') (r : Revision)
    (w : WrittenDirective) : c ∉ w.meaning r := by
  rcases Directive.expand?_stampChars_or_suffix (w.expand?_body r) with hstamp | hsuffix
  · exact not_mem_of_forall hstamp (by rcases hc with rfl | rfl <;> decide)
  · exact fun hmem => w.not_mem_body hc (hsuffix.subset hmem)

end WrittenDirective

end CommitStamp
