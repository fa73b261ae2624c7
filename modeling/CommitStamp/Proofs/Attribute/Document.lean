import CommitStamp.Proofs.Attribute.Cuts
/-!
# A document line by line

Stamping a text and stamping its lines is the same. `lines_stampText` says so of the lines that the
stamped text is cut into, `map_snd_stampLines` of lines that come without their terminators, and
`stampText_append` of texts that are put together where a line ends.
-/

namespace CommitStamp

open Text

/-- The pieces of a stamped text: a stamped body each, and the terminator that was there before. -/
theorem segments_stampText (b : Brackets) (r : Revision) (text : List Char) :
    segments (stampText b r text).1
      = (lines text).map fun l => stampLine b r l.body ++ l.terminator.text := by
  rw [(lines_eq_map_ofSegment _).2, lines_stampText, List.map_map]
  exact List.map_congr_left fun l _ => Line.text_stamp b r l

/-- The bodies of a stamped text are what stamping the bodies of the text gives. -/
theorem map_snd_stampLines (b : Brackets) (r : Revision) (text : List Char) :
    (stampLines b r ((lines text).map Line.body)).map Prod.snd
      = (lines (stampText b r text).1).map Line.body := by
  rw [lines_stampText, stampLines, List.map_map, List.map_map, List.map_map]
  rfl

/-- The count is the number of lines that are told to be attribute lines. -/
theorem countP_fst_stampLines (b : Brackets) (r : Revision) (text : List Char) :
    (stampLines b r ((lines text).map Line.body)).countP Prod.fst = (stampText b r text).2 := by
  rw [stampLines, List.countP_map, List.countP_map]
  refine List.countP_congr fun l _ => ?_
  rw [Function.comp_apply, Function.comp_apply, isSome_stampedLine?_eq]

/-- **Two texts**, the first of which ends with a line, are stamped one after the other. -/
theorem stampText_append (b : Brackets) (r : Revision) {s : List Char} (h : EndsLine s)
    (t : List Char) :
    stampText b r (s ++ t)
      = ((stampText b r s).1 ++ (stampText b r t).1, (stampText b r s).2 + (stampText b r t).2) := by
  simp only [stampText, lines_append h, List.map_append, List.flatMap_append, List.countP_append]

/-- **A stamped document** is the document with its lines stamped. The lines are the pieces between
newlines, each without its terminator; every piece of the result has a stamped body and the same
terminator, and is read as these when it is cut again. Lines without terminators come out the same,
the count is the number of attribute lines, and a text may be stamped in parts. -/
theorem stampText_of_lines (b : Brackets) (r : Revision) (text : List Char) :
    lines text = (segments text).map Line.ofSegment ∧
      segments (stampText b r text).1
        = (lines text).map (fun l => stampLine b r l.body ++ l.terminator.text) ∧
      lines (stampText b r text).1 = (lines text).map (Line.stamp b r) ∧
      (stampLines b r ((lines text).map Line.body)).map Prod.snd
        = (lines (stampText b r text).1).map Line.body ∧
      (stampLines b r ((lines text).map Line.body)).countP Prod.fst = (stampText b r text).2 ∧
      ∀ s t, text = s ++ t → EndsLine s →
        stampText b r text
          = ((stampText b r s).1 ++ (stampText b r t).1,
            (stampText b r s).2 + (stampText b r t).2) := by
  refine ⟨(lines_eq_map_ofSegment text).1, segments_stampText b r text, lines_stampText b r text,
    map_snd_stampLines b r text, countP_fst_stampLines b r text, ?_⟩
  rintro s t rfl h
  exact stampText_append b r h t

/-- Lines with each kind of terminator; a carriage return that ends a text belongs to its last
body. -/
theorem stampText_of_lines_mixed :
    EndsLine "\r\n[assembly: AssemblyInformationalVersion(\"\x7bdate\x7d\")]\r\r\n".toList ∧
      stampText .square newYear
          ("\r\n[assembly: AssemblyInformationalVersion(\"\x7bdate\x7d\")]\r\r\n".toList
            ++ "\n[assembly: AssemblyInformationalVersion(\"\x7btime:h\x7d\")]\r".toList)
        = ("\r\n[assembly: AssemblyInformationalVersion(\"20120101\")]\r\r\n".toList
            ++ "\n[assembly: AssemblyInformationalVersion(\"09\")]\r".toList, 2) := by
  have hends : EndsLine
      "\r\n[assembly: AssemblyInformationalVersion(\"\x7bdate\x7d\")]\r\r\n".toList := by decide
  obtain ⟨-, -, -, -, -, hparts⟩ := stampText_of_lines .square newYear
    ("\r\n[assembly: AssemblyInformationalVersion(\"\x7bdate\x7d\")]\r\r\n".toList
      ++ "\n[assembly: AssemblyInformationalVersion(\"\x7btime:h\x7d\")]\r".toList)
  refine ⟨hends, ?_⟩
  rw [hparts _ _ rfl hends]
  decide +kernel

end CommitStamp
