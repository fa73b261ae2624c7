import CommitStamp.Proofs.Attribute.Restamping
/-!
# Where the value of an attribute ends

A line is cut at the last place where an attribute can be closed. `AttributeLine.Closes` says what
closes one, and `AttributeLine.of?_append` that a closing after which there is no quote is the place
of the cut, even if the value before it holds closings of its own.
-/

namespace CommitStamp

open Text

namespace AttributeLine

variable {b : Brackets} {s rest head value closing : List Char}

/-! ## Closings -/

/-- The text closes an attribute: a quote, a parenthesis and the closing bracket, with blanks
between them. -/
inductive Closes (b : Brackets) : List Char → Prop
  | signs {x y : List Char} (before_parenthesis : ∀ c ∈ x, isBlank c = true)
      (before_bracket : ∀ c ∈ y, isBlank c = true) :
      Closes b ('"' :: (x ++ ')' :: (y ++ [b.closing])))

/-- A sign is found after any blanks. -/
theorem after?_skipBlanks {c : Char} {x : List Char} (hx : ∀ d ∈ x, isBlank d = true)
    (hc : isBlank c = false) (t : List Char) : after? [c] (skipBlanks (x ++ c :: t)) = some t := by
  have hsign : skipBlanks (c :: t) = c :: t := List.dropWhile_cons_of_neg (by simp [hc])
  rw [skipBlanks_append hx, hsign, after?, if_pos rfl, after?]

theorem isBlank_closing (b : Brackets) : isBlank b.closing = false := by
  cases b <;> rfl

theorem Closes.afterClosing? (h : Closes b closing) (rest : List Char) :
    afterClosing? b (closing ++ rest) = some rest := by
  obtain @⟨x, y, hx, hy⟩ := h
  have hparenthesis : after? [')'] (skipBlanks (x ++ ')' :: (y ++ [b.closing]) ++ rest))
      = some (y ++ b.closing :: rest) := by
    rw [List.append_assoc, List.cons_append, List.append_assoc, List.singleton_append]
    exact after?_skipBlanks hx rfl _
  rw [List.cons_append, AttributeLine.afterClosing?, after?, if_pos rfl, after?]
  show (after? [')'] (skipBlanks (x ++ ')' :: (y ++ [b.closing]) ++ rest))).bind _ = _
  rw [hparenthesis]
  exact after?_skipBlanks hy (isBlank_closing b) rest

/-- **The end of an attribute** is read exactly where something closes it. -/
theorem afterClosing?_eq_some_iff :
    afterClosing? b s = some rest ↔ ∃ closing, Closes b closing ∧ s = closing ++ rest := by
  constructor
  · intro h
    obtain ⟨t, ht, h⟩ := Option.bind_eq_some_iff.1 h
    obtain ⟨u, hu, hr⟩ := Option.bind_eq_some_iff.1 h
    obtain ⟨x, hx, rfl⟩ := exists_blanks_append (after?_eq_some_iff.1 hu)
    obtain ⟨y, hy, rfl⟩ := exists_blanks_append (after?_eq_some_iff.1 hr)
    refine ⟨'"' :: (x ++ ')' :: (y ++ [b.closing])), .signs hx hy, ?_⟩
    rw [after?_eq_some_iff.1 ht]
    simp only [List.cons_append, List.nil_append, List.append_assoc]
  · rintro ⟨closing, hclosing, rfl⟩
    exact hclosing.afterClosing? rest

/-- A tail is a closing and what follows it, without a newline. -/
theorem isTail_iff :
    isTail b s = true ↔
      ∃ closing rest, Closes b closing ∧ s = closing ++ rest ∧ '\n' ∉ rest := by
  rw [isTail]
  cases h : AttributeLine.afterClosing? b s with
  | none =>
    constructor
    · intro hfalse
      exact absurd hfalse (by simp)
    · rintro ⟨closing, rest, hclosing, rfl, -⟩
      rw [hclosing.afterClosing? rest] at h
      exact absurd h (by simp)
  | some r =>
    obtain ⟨closing, hclosing, rfl⟩ := afterClosing?_eq_some_iff.1 h
    constructor
    · intro hr
      exact ⟨closing, r, hclosing, rfl, by simpa using hr⟩
    · rintro ⟨closing', r', hclosing', heq, hr⟩
      rw [heq, hclosing'.afterClosing? r'] at h
      rw [← Option.some.inj h]
      simpa using hr

/-- The quote of a closing is its first character and its only one. -/
theorem Closes.exists_cons (h : Closes b closing) : ∃ t, closing = '"' :: t ∧ '"' ∉ t := by
  obtain @⟨x, y, hx, hy⟩ := h
  have hblank : ∀ z : List Char, (∀ c ∈ z, isBlank c = true) → '"' ∉ z := by
    intro z hz hmem
    exact absurd (hz '"' hmem) (by decide)
  have hbracket : '"' ≠ b.closing := by cases b <;> decide
  refine ⟨x ++ ')' :: (y ++ [b.closing]), rfl, ?_⟩
  simp [hblank x hx, hblank y hy, hbracket]

/-- Something in the text closes an attribute. -/
def HasClosing (b : Brackets) (s : List Char) : Prop :=
  ∃ before closing after, Closes b closing ∧ s = before ++ (closing ++ after)

theorem HasClosing.append_left (before : List Char) (h : HasClosing b s) :
    HasClosing b (before ++ s) := by
  obtain ⟨x, closing, after, hclosing, rfl⟩ := h
  exact ⟨before ++ x, closing, after, hclosing, (List.append_assoc before x _).symm⟩

/-- What closes an attribute does not start before the first quote. -/
theorem HasClosing.of_append {t : List Char} (ht : '"' ∉ t) (h : HasClosing b (t ++ s)) :
    HasClosing b s := by
  induction t with
  | nil => exact h
  | cons c t ih =>
    rw [List.mem_cons, not_or] at ht
    apply ih ht.2
    obtain ⟨before, closing, after, hclosing, heq⟩ := h
    cases before with
    | nil =>
      obtain ⟨u, rfl, -⟩ := hclosing.exists_cons
      exact absurd (List.cons.inj heq).1.symm ht.1
    | cons d before => exact ⟨before, closing, after, hclosing, (List.cons.inj heq).2⟩

theorem HasClosing.quote_mem (h : HasClosing b s) : '"' ∈ s := by
  obtain ⟨before, closing, after, hclosing, rfl⟩ := h
  obtain ⟨t, rfl, -⟩ := hclosing.exists_cons
  simp

theorem hasClosing_of_isTail (h : isTail b s = true) : HasClosing b s := by
  obtain ⟨closing, rest, hclosing, rfl, -⟩ := isTail_iff.1 h
  exact ⟨[], closing, rest, hclosing, rfl⟩

/-! ## Cuts -/

/-- Without a closing there is nothing that could end a value. -/
theorem cutValue_of_not_hasClosing (h : ¬HasClosing b s) : cutValue b s = none := by
  induction s with
  | nil => rfl
  | cons c s ih =>
    have htail : isTail b (c :: s) = false := by
      rw [← Bool.not_eq_true]
      exact mt hasClosing_of_isTail h
    have hrest : (if c = '\n' then none else cutValue b s) = none := by
      rw [ih (mt (HasClosing.append_left [c]) h), ite_self]
    rw [cutValue, hrest, htail]
    rfl

/-- A value does not go on beyond a newline. -/
theorem cutValue_of_newline {t : List Char} (hquote : '"' ∉ t) (hnewline : '\n' ∈ t) :
    cutValue b (t ++ s) = none := by
  induction t with
  | nil => exact absurd hnewline List.not_mem_nil
  | cons c t ih =>
    rw [List.mem_cons, not_or] at hquote
    have htail : isTail b (c :: (t ++ s)) = false := by
      rw [isTail, afterClosing?, after?, if_neg (Ne.symm hquote.1)]
      rfl
    have hrest : (if c = '\n' then none else cutValue b (t ++ s)) = none := by
      by_cases hc : c = '\n'
      · rw [if_pos hc]
      · rw [if_neg hc, ih hquote.2 ((List.mem_cons.1 hnewline).resolve_left (Ne.symm hc))]
    rw [List.cons_append, cutValue, hrest, htail]
    rfl

/-- A closing that a value cannot go beyond, because it holds a newline or because there is no other
after it, is where the value ends. -/
theorem Closes.cutValue (h : Closes b closing) (hnewline : '\n' ∉ rest)
    (hlast : '\n' ∈ closing ∨ ¬HasClosing b rest) :
    cutValue b (closing ++ rest) = some ([], closing ++ rest) := by
  have htail : isTail b (closing ++ rest) = true := isTail_iff.2 ⟨closing, rest, h, rfl, hnewline⟩
  obtain ⟨t, rfl, ht⟩ := h.exists_cons
  have hlater : AttributeLine.cutValue b (t ++ rest) = none := by
    rcases hlast with hbreak | hlast
    · exact cutValue_of_newline ht ((List.mem_cons.1 hbreak).resolve_left (by decide))
    · exact cutValue_of_not_hasClosing (mt (HasClosing.of_append ht) hlast)
  rw [List.cons_append] at htail ⊢
  rw [AttributeLine.cutValue, if_neg (by decide), hlater, htail]
  rfl

/-- **A line that is put together** from a head, a value and a closing, with no quote after it, is
cut into these parts. The value may look like anything. -/
theorem of?_append (hhead : Spells (headWords b) head) (hvalue : '\n' ∉ value)
    (hclosing : Closes b closing) (hquote : '"' ∉ rest) (hnewline : '\n' ∉ rest) :
    of? b (head ++ value ++ (closing ++ rest)) = some ⟨head, value, closing ++ rest⟩ :=
  of?_eq_some_iff.2 ⟨rfl, hhead, hvalue,
    hclosing.cutValue hnewline (.inr (mt HasClosing.quote_mem hquote))⟩

/-! ## The first character -/

/-- A head starts with a blank or with the opening bracket. -/
theorem head?_ne_of_spells {c : Char} (h : Spells (headWords b) head) (hblank : isBlank c = false)
    (hc : foldCase c ≠ foldCase b.opening) : head.head? ≠ some c := by
  obtain _ | @⟨_, x, spelled, rest, _, hx, hopening, -⟩ := h
  intro hfirst
  cases x with
  | cons d x =>
    obtain rfl := Option.some.inj hfirst
    rw [hx d List.mem_cons_self] at hblank
    exact absurd hblank (by simp)
  | nil =>
    match spelled, hopening with
    | d :: _, hopening =>
      obtain rfl := Option.some.inj hfirst
      exact hc (List.cons.inj hopening).1

end AttributeLine

/-- A text of a single line without its terminator is stamped like that line. -/
theorem stampText_of_no_newline {b : Brackets} {line : List Char} {a : AttributeLine}
    (h : AttributeLine.of? b line = some a) (hnewline : '\n' ∉ line) (r : Revision) :
    stampText b r line = ((a.stamp r).text, 1) := by
  have hne : line ≠ [] := by
    intro hnil
    rw [hnil] at h
    exact AttributeLine.head_ne_nil h (List.append_eq_nil_iff.1 (List.append_eq_nil_iff.1
      (AttributeLine.of?_eq_some_iff.1 h).1.symm).1).1
  have hcount : [Line.mk line .none].countP (fun l => (AttributeLine.of? b l.body).isSome) = 1 := by
    rw [List.countP_singleton, h]
    rfl
  rw [stampText, lines_of_no_newline hnewline hne, hcount, List.map_singleton,
    List.flatMap_singleton, Line.text_stamp, stampLine_of_some h]
  exact congrArg (·, 1) (List.append_nil _)

end CommitStamp
