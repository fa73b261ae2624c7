import CommitStamp.Attribute.Document
import CommitStamp.Proofs.Attribute.Anatomy
import CommitStamp.Proofs.Template.Flat
import CommitStamp.Proofs.Text.Lines
/-!
# Stamping a stamped text

The value of an attribute may be rendered again when its text is stamped again.
`AttributeLine.of?_stamp` says that the second matching finds the same head and the same tail, and
`lines_stampText` that the second cut into lines finds the same lines. What remains of a text is its
`Frame`s, line by line, and these do not depend on how often and with which revisions it is stamped.
Whether the values change again is a matter of rendering alone (`Template.Flat.expand_expand`).
-/

namespace CommitStamp

open Text

variable {b : Brackets} {line : List Char} {a : AttributeLine}

/-! ## One line -/

namespace AttributeLine

/-- The last character of an attribute line is the one of its tail. -/
theorem getLast?_text (h : a.tail ≠ []) : a.text.getLast? = a.tail.getLast? := by
  rw [text, List.getLast?_append, List.getLast?_eq_some_getLast h, Option.some_or]

/-- A stamped line is cut at the same two places. -/
theorem of?_stamp (h : of? b line = some a) (r : Revision) :
    of? b (a.stamp r).text = some (a.stamp r) := by
  have hvalue : '\n' ∉ a.value := (of?_eq_some_iff.1 h).2.2.1
  exact of?_text_with_value h (Template.not_mem_expand (by decide) hvalue)

theorem stamp_stamp (h : Template.Flat a.value) (i j : Revision) :
    (a.stamp i).stamp j = a.stamp i := by
  rw [stamp, stamp, h.expand_expand]

end AttributeLine

theorem stampLine_of_some (h : AttributeLine.of? b line = some a) (r : Revision) :
    stampLine b r line = (a.stamp r).text := by
  rw [stampLine, stampedLine?, h]
  rfl

theorem stampLine_of_none (h : AttributeLine.of? b line = none) (r : Revision) :
    stampLine b r line = line := by
  rw [stampLine, stampedLine?, h]
  rfl

/-- Stamping a line keeps its head and its tail, and keeps it from becoming one. -/
theorem of?_stampLine (b : Brackets) (r : Revision) (line : List Char) :
    AttributeLine.of? b (stampLine b r line)
      = (AttributeLine.of? b line).map (AttributeLine.stamp r) := by
  cases h : AttributeLine.of? b line with
  | none => rw [stampLine_of_none h, h, Option.map_none]
  | some a => rw [stampLine_of_some h, a.of?_stamp h, Option.map_some]

/-! ## The lines of a text -/

namespace Text.Line

variable {r : Revision}

theorem stamp_body (b : Brackets) (r : Revision) (l : Line) :
    (l.stamp b r).body = stampLine b r l.body := rfl

theorem text_stamp (b : Brackets) (r : Revision) (l : Line) :
    (l.stamp b r).text = stampLine b r l.body ++ l.terminator.text := rfl

/-- Stamping changes neither the end of a line nor where it ends. -/
theorem respects_stamp (b : Brackets) (r : Revision) (l : Line) : l.Respects (l.stamp b r) := by
  obtain ⟨body, terminator⟩ := l
  cases h : AttributeLine.of? b body with
  | none =>
    have hsame : stampLine b r body = body := stampLine_of_none h r
    refine ⟨rfl, ?_, ?_⟩
    · rw [stamp_body, hsame]
    · rw [stamp_body, hsame]
      exact id
  | some a =>
    have htext : body = a.text := (AttributeLine.of?_eq_some_iff.1 h).1
    have hstamp : stampLine b r body = (a.stamp r).text := stampLine_of_some h r
    refine ⟨rfl, ?_, ?_⟩
    · -- the tail ends the line before and after, so no carriage return joins the terminator
      have hne : a.tail ≠ [] := AttributeLine.tail_ne_nil h
      rw [stamp_body, hstamp, htext, a.getLast?_text hne]
      exact (a.stamp r).getLast?_text hne
    · rw [stamp_body, hstamp, htext, AttributeLine.text, AttributeLine.text]
      simp only [List.mem_append, not_or]
      rintro ⟨⟨hhead, hvalue⟩, htail⟩
      exact ⟨⟨hhead, Template.not_mem_expand (by decide) hvalue⟩, htail⟩

end Text.Line

/-- **The lines of a stamped text** are the stamped lines of the text. -/
theorem lines_stampText (b : Brackets) (r : Revision) (text : List Char) :
    lines (stampText b r text).1 = (lines text).map (Line.stamp b r) :=
  lines_flatMap_text ((isCut_lines text).map (Line.respects_stamp b r))

/-! ## Frames -/

/-- What of a line is not the value of an attribute. -/
inductive Frame where
  /-- What stands before and after the value. -/
  | around (head tail : List Char) (terminator : Terminator)
  /-- The whole of any other line. -/
  | whole (line : Line)

/-- The frame of a line. -/
def Frame.of (b : Brackets) (l : Line) : Frame :=
  match AttributeLine.of? b l.body with
  | some a => around a.head a.tail l.terminator
  | none => whole l

theorem Frame.of_stamp (b : Brackets) (r : Revision) (l : Line) :
    Frame.of b (l.stamp b r) = Frame.of b l := by
  rw [of, of, Line.stamp_body, of?_stampLine]
  cases h : AttributeLine.of? b l.body with
  | none =>
    obtain ⟨body, terminator⟩ := l
    have hsame : stampLine b r body = body := stampLine_of_none h r
    exact congrArg whole (congrArg (Line.mk · terminator) hsame)
  | some a => rfl

theorem map_frame_stampText (b : Brackets) (r : Revision) (text : List Char) :
    (lines (stampText b r text).1).map (Frame.of b) = (lines text).map (Frame.of b) := by
  rw [lines_stampText, List.map_map]
  exact List.map_congr_left fun l _ => Frame.of_stamp b r l

theorem stampText_snd_stampText (b : Brackets) (i j : Revision) (text : List Char) :
    (stampText b j (stampText b i text).1).2 = (stampText b i text).2 := by
  show (lines (stampText b i text).1).countP _ = (lines text).countP _
  rw [lines_stampText, List.countP_map]
  refine List.countP_congr fun l _ => ?_
  rw [Function.comp_apply, Line.stamp_body, of?_stampLine, Option.isSome_map]

/-! ## Twice and once -/

/-- The value of every attribute line of the text is a flat template. -/
def FlatValues (b : Brackets) (text : List Char) : Prop :=
  ∀ l ∈ lines text, ∀ a ∈ AttributeLine.of? b l.body, Template.Flat a.value

instance (b : Brackets) (text : List Char) : Decidable (FlatValues b text) :=
  inferInstanceAs (Decidable (∀ l ∈ lines text, ∀ a ∈ AttributeLine.of? b l.body,
    Template.Flat a.value))

theorem stamp_stamp_of_flat {i j : Revision} {l : Line}
    (h : ∀ a ∈ AttributeLine.of? b l.body, Template.Flat a.value) :
    (l.stamp b i).stamp b j = l.stamp b i := by
  obtain ⟨body, terminator⟩ := l
  refine congrArg (Line.mk · terminator) ?_
  show stampLine b j (stampLine b i body) = stampLine b i body
  cases hline : AttributeLine.of? b body with
  | none => rw [stampLine_of_none hline, stampLine_of_none hline]
  | some a =>
    -- the second value to render is the one that the first rendering left
    rw [stampLine_of_some hline, stampLine_of_some (a.of?_stamp hline i),
      a.stamp_stamp (h a hline)]

/-- **When and how often a text is stamped** makes no difference to its attribute lines, to what
stands around their values, or to any other line. It makes no difference at all if no value has
nested braces. -/
theorem stampText_stampText (b : Brackets) (i j : Revision) (text : List Char) :
    (stampText b j (stampText b i text).1).2 = (stampText b i text).2 ∧
      (lines (stampText b j (stampText b i text).1).1).map (Frame.of b)
        = (lines text).map (Frame.of b) ∧
      (FlatValues b text → (stampText b j (stampText b i text).1).1 = (stampText b i text).1) := by
  refine ⟨stampText_snd_stampText b i j text, ?_, fun hflat => ?_⟩
  · rw [map_frame_stampText, map_frame_stampText]
  · show ((lines (stampText b i text).1).map (Line.stamp b j)).flatMap Line.text = _
    rw [lines_stampText, List.map_map]
    refine congrArg (List.flatMap Line.text) (List.map_congr_left fun l hl => ?_)
    exact stamp_stamp_of_flat (hflat l hl)

/-- A line with two groups in its value. -/
def twoGroups : List Char :=
  "[assembly: AssemblyInformationalVersion(\"\x7bcommit:5\x7d\x7b!\x7d\")]\r\n".toList

/-- A clean tree. -/
def committed : Revision where
  hash := .zero
  time := (do Timestamp.of? (← Date.of? 2011 12 31) (← TimeOfDay.of? 14 30 45) 3600).get
    (by decide)
  dirty := false

/-- A dirty tree, later on. -/
def edited : Revision where
  hash := .zero
  time := (do Timestamp.of? (← Date.of? 2012 1 1) (← TimeOfDay.of? 9 30 0 500000000) 3600).get
    (by decide)
  dirty := true

/-- A tree that gets dirty after its text was stamped. -/
theorem stampText_stampText_twoGroups :
    FlatValues .square twoGroups ∧
      (stampText .square edited (stampText .square committed twoGroups).1).1
        = (stampText .square committed twoGroups).1 := by
  have hflat : FlatValues .square twoGroups := by decide
  exact ⟨hflat, (stampText_stampText .square _ _ _).2.2 hflat⟩

end CommitStamp
