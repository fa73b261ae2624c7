import CommitStamp.Proofs.Attribute.Cuts
/-!
# The value of an attribute that other text follows

What follows an attribute on its line may hold something that closes an attribute as well: a comment
that quotes the attribute, or another attribute. The value is then taken to go on to the last such
place of the line, with all that stands before it (`AttributeLine.of?_append_later`). Only where
there is none is the value the attribute's own (`AttributeLine.of?_append_iff`), except that a value
never goes on beyond a newline.
-/

namespace CommitStamp

open Text

variable {b : Brackets} {head value closing rest before last after s : List Char}

namespace AttributeLine

/-- What closes an attribute last has nothing after it that closes one. -/
theorem HasClosing.exists_last (h : HasClosing b s) :
    ∃ before last after, s = before ++ (last ++ after) ∧ Closes b last ∧ ¬HasClosing b after := by
  induction s with
  | nil =>
    obtain ⟨before, closing, after, hclosing, heq⟩ := h
    obtain ⟨t, rfl, -⟩ := hclosing.exists_cons
    exact absurd heq.symm (by simp)
  | cons c s ih =>
    by_cases hs : HasClosing b s
    · obtain ⟨before, last, after, rfl, hlast, hafter⟩ := ih hs
      exact ⟨c :: before, last, after, rfl, hlast, hafter⟩
    · -- nothing that closes an attribute starts later, so one starts here
      obtain ⟨before, closing, after, hclosing, heq⟩ := h
      cases before with
      | cons d before => exact absurd ⟨before, closing, after, hclosing, (List.cons.inj heq).2⟩ hs
      | nil =>
        obtain ⟨t, rfl, ht⟩ := hclosing.exists_cons
        refine ⟨[], '"' :: t, after, heq, hclosing, fun hafter => hs ?_⟩
        rw [(List.cons.inj heq).2]
        exact hafter.append_left t

/-- A value that other text follows goes on to the last closing of the line. -/
theorem of?_append_later (hhead : Spells (headWords b) head) (hvalue : '\n' ∉ value)
    (hbreak : '\n' ∉ closing) (hrest : '\n' ∉ before ++ (last ++ after)) (hlast : Closes b last)
    (hafter : ¬HasClosing b after) :
    of? b (head ++ value ++ (closing ++ (before ++ (last ++ after))))
      = some ⟨head, value ++ closing ++ before, last ++ after⟩ := by
  rw [List.mem_append, List.mem_append, not_or, not_or] at hrest
  refine of?_eq_some_iff.2 ⟨?_, hhead, ?_, hlast.cutValue hrest.2.2 (.inr hafter)⟩
  · rw [text]
    simp only [List.append_assoc]
  · rw [List.mem_append, List.mem_append, not_or, not_or]
    exact ⟨⟨hvalue, hbreak⟩, hrest.1⟩

/-- **Where the value is the attribute's own.** -/
theorem of?_append_iff (hhead : Spells (headWords b) head) (hvalue : '\n' ∉ value)
    (hclosing : Closes b closing) (hrest : '\n' ∉ rest) :
    of? b (head ++ value ++ (closing ++ rest)) = some ⟨head, value, closing ++ rest⟩ ↔
      '\n' ∈ closing ∨ ¬HasClosing b rest := by
  constructor
  · intro h
    by_cases hbreak : '\n' ∈ closing
    · exact .inl hbreak
    right
    intro hlater
    obtain ⟨before, last, after, rfl, hlast, hafter⟩ := hlater.exists_last
    have hlonger := of?_append_later hhead hvalue hbreak hrest hlast hafter
    have hsame : value = value ++ closing ++ before :=
      congrArg AttributeLine.value (Option.some.inj (h.symm.trans hlonger))
    obtain ⟨t, rfl, -⟩ := hclosing.exists_cons
    have hlength := congrArg List.length hsame
    simp only [List.length_append, List.length_cons] at hlength
    omega
  · intro h
    exact of?_eq_some_iff.2 ⟨rfl, hhead, hvalue, hclosing.cutValue hrest h⟩

end AttributeLine

open AttributeLine

/-- **Text after an attribute.** It is copied as it stands, and only the attribute's own value is
rendered, if nothing in it closes an attribute. Otherwise what is rendered as the value goes on to
the last closing of the line, and what is copied is what stands after that. -/
theorem stampLine_own_value (r : Revision) (hhead : Spells (headWords b) head)
    (hvalue : '\n' ∉ value) (hclosing : Closes b closing) (hrest : '\n' ∉ rest) :
    (of? b (head ++ value ++ (closing ++ rest)) = some ⟨head, value, closing ++ rest⟩ ↔
        '\n' ∈ closing ∨ ¬HasClosing b rest) ∧
      ('\n' ∈ closing ∨ ¬HasClosing b rest →
        stampLine b r (head ++ value ++ (closing ++ rest))
          = head ++ Template.expand r value ++ (closing ++ rest)) ∧
      ('\n' ∉ closing → HasClosing b rest →
        ∃ before last after,
          rest = before ++ (last ++ after) ∧ Closes b last ∧ ¬HasClosing b after ∧
            stampLine b r (head ++ value ++ (closing ++ rest))
              = head ++ Template.expand r (value ++ closing ++ before) ++ (last ++ after)) := by
  have hown := of?_append_iff hhead hvalue hclosing hrest
  refine ⟨hown, ?_, ?_⟩
  · intro h
    rw [stampLine_of_some (hown.2 h)]
    rfl
  · intro hbreak hlater
    obtain ⟨before, last, after, rfl, hlast, hafter⟩ := hlater.exists_last
    refine ⟨before, last, after, rfl, hlast, hafter, ?_⟩
    rw [stampLine_of_some (of?_append_later hhead hvalue hbreak hrest hlast hafter)]
    rfl

/-! ## Two attributes on a line -/

/-- What stands before the version. -/
def versionHead : List Char := "[assembly: AssemblyInformationalVersion(\"".toList

/-- Another attribute on the same line, which takes a template for its text as well. -/
def descriptionAfter : List Char := " [assembly: AssemblyDescription(\"built \x7bdate\x7d\")]".toList

theorem spells_versionHead : Spells (headWords .square) versionHead := by
  have hline : of? .square (versionHead ++ "\")]".toList)
      = some ⟨versionHead, [], "\")]".toList⟩ := by decide +kernel
  exact (of?_eq_some_iff.1 hline).2.1

theorem closes_plain : Closes .square "\")]".toList :=
  .signs (x := []) (y := []) (by simp) (by simp)

/-- A comment is left alone although it has quotes, parentheses and brackets; the description is
not. -/
theorem stampLine_own_value_description :
    stampLine .square newYear
        (versionHead ++ "\x7bcommit:8\x7d".toList
          ++ ("\")]".toList ++ " // as (\"\x7b!\x7d\") in [docs]".toList))
        = versionHead ++ Template.expand newYear "\x7bcommit:8\x7d".toList
          ++ ("\")]".toList ++ " // as (\"\x7b!\x7d\") in [docs]".toList) ∧
      HasClosing .square descriptionAfter ∧
      ∃ before last after,
        descriptionAfter = before ++ (last ++ after) ∧ Closes .square last ∧
          ¬HasClosing .square after ∧
          stampLine .square newYear
              (versionHead ++ "\x7bcommit:8\x7d".toList ++ ("\")]".toList ++ descriptionAfter))
            = versionHead
              ++ Template.expand newYear ("\x7bcommit:8\x7d".toList ++ "\")]".toList ++ before)
              ++ (last ++ after) := by
  have hvalue : '\n' ∉ "\x7bcommit:8\x7d".toList := by decide
  have hlater : HasClosing .square descriptionAfter :=
    ⟨" [assembly: AssemblyDescription(\"built \x7bdate\x7d".toList, "\")]".toList, [],
      closes_plain, by decide +kernel⟩
  have hcomment : '\n' ∉ " // as (\"\x7b!\x7d\") in [docs]".toList := by decide
  have hdescription : '\n' ∉ descriptionAfter := by decide
  obtain ⟨hown, hcopied, -⟩ :=
    stampLine_own_value newYear spells_versionHead hvalue closes_plain hcomment
  obtain ⟨-, -, hrendered⟩ :=
    stampLine_own_value newYear spells_versionHead hvalue closes_plain hdescription
  exact ⟨hcopied (hown.1 (by decide +kernel)), hlater, hrendered (by decide) hlater⟩

/-- Text after an attribute is not always left alone. -/
theorem not_always_own_value :
    ¬∀ (b : Brackets) (r : Revision) (head value closing rest : List Char),
      Spells (headWords b) head → '"' ∉ value → '\n' ∉ value → Closes b closing → '\n' ∉ rest →
        stampLine b r (head ++ value ++ (closing ++ rest))
          = head ++ Template.expand r value ++ (closing ++ rest) := by
  intro hall
  have hclaim := hall .square newYear versionHead "\x7bcommit:8\x7d".toList "\")]".toList
    descriptionAfter spells_versionHead (by decide) (by decide) closes_plain (by decide)
  exact absurd hclaim (by decide +kernel)

end CommitStamp
