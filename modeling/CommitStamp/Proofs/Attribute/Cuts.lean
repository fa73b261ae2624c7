import CommitStamp.Proofs.Attribute.Closing
/-!
# All the ways to cut a line

A line may be cut into the parts of an attribute in several ways, because what closes an attribute
may stand in a value and in what follows it as well. A `Cut` is any of these ways, said without the
function that finds one. `AttributeLine.of?` succeeds exactly where there is a cut
(`Cut.exists_attributeLine`), all cuts have the same head (`Cut.head_eq`), and what is found is the
cut with the longest value (`Cut.isLongest_iff`). `stampLine_of_cuts` says what that means for a
stamped line.
-/

namespace CommitStamp

open Text

/-- A way to cut a line: a head that spells the words of an attribute, a value, what closes the
attribute, and the rest. Neither the value nor the rest holds a newline. -/
structure Cut (b : Brackets) (line : List Char) where
  head : List Char
  value : List Char
  closing : List Char
  rest : List Char
  line_eq : line = head ++ value ++ (closing ++ rest)
  spells_head : AttributeLine.Spells (AttributeLine.headWords b) head
  closes : AttributeLine.Closes b closing
  no_newline_value : '\n' ∉ value
  no_newline_rest : '\n' ∉ rest

namespace Cut

variable {b : Brackets} {line : List Char} {a : AttributeLine}

/-- No way to cut the line has a longer value. -/
def IsLongest (c : Cut b line) : Prop :=
  ∀ d : Cut b line, d.value.length ≤ c.value.length

/-- The line with the value rendered as a template. -/
def stamped (c : Cut b line) (r : Revision) : List Char :=
  c.head ++ Template.expand r c.value ++ (c.closing ++ c.rest)

/-! ## Heads -/

theorem afterHead?_line (c : Cut b line) :
    AttributeLine.afterHead? b line = some (c.value ++ (c.closing ++ c.rest)) :=
  AttributeLine.afterHead?_eq_some_iff.2
    ⟨c.head, c.spells_head, by rw [← List.append_assoc]; exact c.line_eq⟩

/-- **All cuts have the same head.** -/
theorem head_eq (c d : Cut b line) : c.head = d.head := by
  have hafter : c.value ++ (c.closing ++ c.rest) = d.value ++ (d.closing ++ d.rest) :=
    Option.some.inj (c.afterHead?_line.symm.trans d.afterHead?_line)
  have hline := c.line_eq.symm.trans d.line_eq
  rw [List.append_assoc, List.append_assoc, hafter] at hline
  exact List.append_cancel_right hline

/-! ## Values -/

/-- Wherever a value could end, the value that is cut ends there or later. -/
theorem exists_cutValue {v t : List Char} (hv : '\n' ∉ v)
    (ht : AttributeLine.isTail b t = true) :
    ∃ v' t', AttributeLine.cutValue b (v ++ t) = some (v', t') ∧ v.length ≤ v'.length := by
  induction v with
  | nil =>
    cases t with
    | nil => exact absurd ht (by simp [AttributeLine.isTail, AttributeLine.afterClosing?, after?])
    | cons c t =>
      rw [List.nil_append, AttributeLine.cutValue, if_pos ht]
      split
      · exact ⟨_, _, rfl, Nat.zero_le _⟩
      · exact ⟨_, _, rfl, Nat.zero_le _⟩
  | cons c v ih =>
    rw [List.mem_cons, not_or] at hv
    obtain ⟨v', t', hcut, hle⟩ := ih hv.2
    exact ⟨c :: v', t', AttributeLine.cutValue_cons (Ne.symm hv.1) hcut, Nat.succ_le_succ hle⟩

theorem isTail_of_cutValue {t : List Char} (h : AttributeLine.cutValue b t = some ([], t)) :
    AttributeLine.isTail b t = true := by
  cases t with
  | nil => exact absurd h (by simp [AttributeLine.cutValue])
  | cons c t =>
    rw [AttributeLine.cutValue] at h
    split at h
    · exact absurd (Prod.mk.inj (Option.some.inj h)).1 (List.cons_ne_nil _ _)
    · split at h
      · assumption
      · exact absurd h (by simp)

/-! ## Cuts and attribute lines -/

/-- Where there is a cut, a line is taken for an attribute line, with the same head and a value that
is no shorter. -/
theorem exists_attributeLine (c : Cut b line) :
    ∃ a, AttributeLine.of? b line = some a ∧ a.head = c.head ∧
      c.value.length ≤ a.value.length := by
  have htail : AttributeLine.isTail b (c.closing ++ c.rest) = true :=
    AttributeLine.isTail_iff.2 ⟨c.closing, c.rest, c.closes, rfl, c.no_newline_rest⟩
  obtain ⟨value, tail, hcut, hle⟩ := exists_cutValue c.no_newline_value htail
  obtain ⟨heq, hvalue, hlast⟩ := AttributeLine.cutValue_eq_some_iff.1 hcut
  refine ⟨⟨c.head, value, tail⟩, AttributeLine.of?_eq_some_iff.2 ⟨?_, c.spells_head, hvalue, hlast⟩,
    rfl, hle⟩
  show line = c.head ++ value ++ tail
  rw [List.append_assoc, ← heq, ← List.append_assoc]
  exact c.line_eq

/-- An attribute line is cut in the way that its parts say. -/
theorem exists_of_attributeLine (h : AttributeLine.of? b line = some a) :
    ∃ c : Cut b line, c.head = a.head ∧ c.value = a.value ∧ c.closing ++ c.rest = a.tail := by
  obtain ⟨hline, hhead, hvalue, htail⟩ := AttributeLine.of?_eq_some_iff.1 h
  obtain ⟨closing, rest, hclosing, htext, hrest⟩ :=
    AttributeLine.isTail_iff.1 (isTail_of_cutValue htail)
  refine ⟨⟨a.head, a.value, closing, rest, ?_, hhead, hclosing, hvalue, hrest⟩, rfl, rfl, htext.symm⟩
  rw [hline, AttributeLine.text, htext]

/-- **The longest cut is the one that is found.** -/
theorem isLongest_iff {c : Cut b line} :
    c.IsLongest ↔ AttributeLine.of? b line = some ⟨c.head, c.value, c.closing ++ c.rest⟩ := by
  constructor
  · intro h
    obtain ⟨a, ha, hhead, hle⟩ := c.exists_attributeLine
    obtain ⟨d, -, hvalue, -⟩ := exists_of_attributeLine ha
    have hline := c.line_eq.symm.trans (AttributeLine.of?_eq_some_iff.1 ha).1
    rw [AttributeLine.text, hhead, List.append_assoc, List.append_assoc] at hline
    -- the two values start at the same place and are equally long
    have hlength : c.value.length = a.value.length := Nat.le_antisymm hle (hvalue ▸ h d)
    obtain ⟨hsame, hrest⟩ := List.append_inj (List.append_cancel_left hline) hlength
    rw [ha, ← hhead, hsame, hrest]
  · intro h d
    obtain ⟨a, ha, -, hle⟩ := d.exists_attributeLine
    obtain rfl := Option.some.inj (h.symm.trans ha)
    exact hle

/-- Of the cuts of a line one is longest. -/
theorem exists_isLongest (c : Cut b line) : ∃ d : Cut b line, d.IsLongest := by
  obtain ⟨a, ha, -, -⟩ := c.exists_attributeLine
  obtain ⟨d, hhead, hvalue, htail⟩ := exists_of_attributeLine ha
  refine ⟨d, isLongest_iff.2 ?_⟩
  rw [ha, hhead, hvalue, htail]

end Cut

theorem isSome_stampedLine?_eq (b : Brackets) (r : Revision) (line : List Char) :
    (stampedLine? b r line).isSome = (AttributeLine.of? b line).isSome := by
  rw [stampedLine?, Option.isSome_map]

theorem isSome_stampedLine? (b : Brackets) (r : Revision) (line : List Char) :
    (stampedLine? b r line).isSome = true ↔ Nonempty (Cut b line) := by
  rw [isSome_stampedLine?_eq]
  constructor
  · intro h
    obtain ⟨a, ha⟩ := Option.isSome_iff_exists.1 h
    obtain ⟨c, -⟩ := Cut.exists_of_attributeLine ha
    exact ⟨c⟩
  · rintro ⟨c⟩
    obtain ⟨a, ha, -⟩ := c.exists_attributeLine
    rw [ha]
    rfl

theorem Cut.IsLongest.stampedLine? {b : Brackets} {line : List Char} {c : Cut b line}
    (h : c.IsLongest) (r : Revision) : stampedLine? b r line = some (c.stamped r) := by
  rw [CommitStamp.stampedLine?, Cut.isLongest_iff.1 h]
  rfl

/-- **Which lines are stamped, and how.** A line is stamped if and only if it can be cut into the
parts of an attribute. All its cuts have the same head, and the one with the longest value says what
becomes of it. Any other line stays as it is. -/
theorem stampLine_of_cuts (b : Brackets) (r : Revision) (line : List Char) :
    ((stampedLine? b r line).isSome = true ↔ Nonempty (Cut b line)) ∧
      (∀ c d : Cut b line, c.head = d.head) ∧
      (Nonempty (Cut b line) → ∃ c : Cut b line, c.IsLongest) ∧
      (∀ c : Cut b line, c.IsLongest →
        stampedLine? b r line = some (c.stamped r) ∧ stampLine b r line = c.stamped r) ∧
      (¬Nonempty (Cut b line) → stampedLine? b r line = none ∧ stampLine b r line = line) := by
  refine ⟨isSome_stampedLine? b r line, Cut.head_eq, ?_, ?_, ?_⟩
  · rintro ⟨c⟩
    exact c.exists_isLongest
  · intro c hc
    have hstamped := hc.stampedLine? r
    refine ⟨hstamped, ?_⟩
    rw [stampLine, hstamped]
    rfl
  · intro hempty
    have hnone : stampedLine? b r line = none := by
      rw [← Option.not_isSome_iff_eq_none, isSome_stampedLine?]
      exact hempty
    refine ⟨hnone, ?_⟩
    rw [stampLine, hnone]
    rfl

/-- A line with two places where its value could end, and blanks of many kinds. -/
def twoClosings : List Char :=
  "\n[aſſembly\u2003:assemblyinformationalversion(\n\"\x7bcommit:5\x7d\")]\"\n)\t] // \x7b!\x7d".toList

theorem of?_twoClosings :
    AttributeLine.of? .square twoClosings
      = some ⟨"\n[aſſembly\u2003:assemblyinformationalversion(\n\"".toList,
          "\x7bcommit:5\x7d\")]".toList, "\"\n)\t] // \x7b!\x7d".toList⟩ := by
  decide +kernel

/-- The value goes on to the second place. -/
def secondClosing : Cut .square twoClosings where
  head := "\n[aſſembly\u2003:assemblyinformationalversion(\n\"".toList
  value := "\x7bcommit:5\x7d\")]".toList
  closing := "\"\n)\t]".toList
  rest := " // \x7b!\x7d".toList
  line_eq := by decide +kernel
  spells_head := (AttributeLine.of?_eq_some_iff.1 of?_twoClosings).2.1
  closes := .signs (List.forall_mem_singleton.2 (by decide : isBlank '\n' = true))
    (List.forall_mem_singleton.2 (by decide : isBlank '\t' = true))
  no_newline_value := by decide
  no_newline_rest := by decide

/-- A commit on New Year's morning, in a clean tree. -/
def newYear : Revision where
  hash := .zero
  time := (do Timestamp.of? (← Date.of? 2012 1 1) (← TimeOfDay.of? 9 30 0) 3600).get (by decide)
  dirty := false

/-- The mark after the second place is no part of the value. -/
theorem stampLine_of_cuts_twoClosings :
    secondClosing.IsLongest ∧
      stampLine .square newYear twoClosings
        = "\n[aſſembly\u2003:assemblyinformationalversion(\n\"00000\")]\"\n)\t] // \x7b!\x7d".toList := by
  have hlongest : secondClosing.IsLongest := Cut.isLongest_iff.2 of?_twoClosings
  refine ⟨hlongest, ?_⟩
  obtain ⟨-, -, -, hstamped, -⟩ := stampLine_of_cuts .square newYear twoClosings
  rw [(hstamped secondClosing hlongest).2]
  decide +kernel

end CommitStamp
