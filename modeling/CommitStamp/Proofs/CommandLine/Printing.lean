import CommitStamp.Proofs.Attribute.Closing
import CommitStamp.Proofs.CommandLine.Effects
import CommitStamp.Proofs.Encoding.Detection
/-!
# What is printed is what is stamped

A template may be printed, or stand as the value of an attribute in a file that is stamped. One way
only renders it. The other detects the encoding of the file, decodes it, finds the value in its
line, renders that, and encodes the line again. `stamped_as_printed` says that the two give the same
text for the same revision, and that nothing around the value changes.
-/

namespace CommitStamp

open Text

/-! ## A file of one attribute line -/

namespace Stamp

variable {b : Brackets} {e : Encoding} {line : List Char} {a : AttributeLine}

/-- A file with a mark that holds an attribute line and nothing else: its encoding is found out, and
what is written is the stamped line in that encoding. -/
theorem stampBytes_encode_line (ha : AttributeLine.of? b line = some a) (hnewline : '\n' ∉ line)
    (he : e.mark ≠ []) (r : Revision) :
    stampBytes b r (e.encode line) = (e.encode (a.stamp r).text, ⟨1, e⟩) := by
  obtain ⟨hline, hhead, -, -⟩ := AttributeLine.of?_eq_some_iff.1 ha
  -- the line starts with a blank or a bracket, so it does not mislead
  have hfirst : line.head? ≠ some '\x00' := by
    have hfold : foldCase '\x00' ≠ foldCase b.opening := by cases b <;> decide
    rw [hline, AttributeLine.text, List.append_assoc, List.head?_append,
      List.head?_eq_some_head (AttributeLine.head_ne_nil ha), Option.some_or,
      ← List.head?_eq_some_head]
    exact AttributeLine.head?_ne_of_spells hhead rfl hfold
  have hdetect : Encoding.detect (e.encode line) = e := Encoding.detect_encode_of_mark he hfirst
  have hdecode : e.decode (e.encode line) = line := by
    apply Encoding.decode_encode_of_covers
    intro hlatin1
    exact absurd (hlatin1 ▸ rfl : e.mark = []) he
  simp only [stampBytes, hdetect, hdecode, stampText_of_no_newline ha hnewline]

end Stamp

/-! ## The command line -/

namespace CommandLine

variable {h : Host} {arguments : List String} {o : Options} {c : Config} {r : Revision}

/-- Any template at all can be given on a command line, also one that looks like a flag. -/
theorem parse_revision_format (template : String) :
    Options.parse ["--revision", "--format=" ++ template]
      = .ok { revision := true, format? := some template } := by
  have hword : ("--format=" ++ template).toList
      = '-' :: '-' :: ("format=".toList ++ template.toList) := String.toList_append
  have hcut : cutAt '=' ("format=".toList ++ template.toList)
      = some ("format".toList, template.toList) :=
    cutAt_eq_some_iff.2 ⟨rfl, by decide⟩
  have hgive : Reading.give { flags := [.revision] } .format template.toList
      = .ok { flags := [.revision], values := [(.format, template.toList)] } := by
    -- the format may be empty, unlike other values
    have hempty : ¬(template.toList = [] ∧ Slot.format ≠ Slot.format) := fun h => h.2 rfl
    unfold Reading.give
    rw [if_neg hempty]
    rfl
  have hformat : Reading.word { flags := [.revision] } ("--format=" ++ template).toList
      = .ok { flags := [.revision], values := [(.format, template.toList)] } := by
    rw [hword, Reading.word, Reading.named, hcut]
    exact hgive
  have hrevision : Reading.word {} "--revision".toList = .ok { flags := [.revision] } := rfl
  have hdashes : ("--format=" ++ template).toList ≠ ['-', '-'] := by
    rw [hword]
    simp
  have hwords : Reading.words {} (["--revision", "--format=" ++ template].map String.toList)
      = .ok { flags := [.revision], values := [(.format, template.toList)] } := by
    rw [List.map_cons, Reading.words, if_neg (by decide), hrevision]
    show Reading.words { flags := [.revision] } [("--format=" ++ template).toList] = _
    rw [Reading.words, if_neg hdashes, hformat]
    rfl
  rw [Options.parse, hwords]
  show Except.ok
    { revision := true, format? := some (String.ofList template.toList) : Options } = _
  rw [String.ofList_toList]

theorem run_of_revision_format (hparse : Options.parse arguments = .ok o)
    (hrevision : o.revision = true) {template : String} (hformat : o.format? = some template)
    (huses : o.Uses h c r) :
    (run h arguments).code = 0 ∧
      (run h arguments).output = Template.render template r ++ "\n" := by
  have hprints : o.prints = true := by
    rw [Options.prints, hrevision, Bool.true_or]
  have htemplate : o.template c = template := by
    rw [Options.template, hformat, Option.getD_some]
  obtain ⟨directory, hcopy, hrevision'⟩ := huses.revision
  obtain ⟨trace, htrace⟩ : ∃ trace, (Vcs.Lookup.ofConfig h c).revision h directory
      o.ignoreMissing = (.ok r, trace) :=
    ⟨_, Prod.ext (Vcs.Lookup.revision_eq_ok_iff.2 hrevision') rfl⟩
  rw [run_of_parse hparse, Options.run_of_revision huses.config hcopy htrace,
    Options.finish_of_prints trace hprints, htemplate]
  exact ⟨rfl, rfl⟩

/-! ## Printed and stamped -/

/-- **What is printed is what is stamped.** Where a template is the value of an attribute, the file
gets what a run prints for that template and that revision, in the encoding that the file has, and
nothing else about it changes. The template may hold quotes and closings of its own, and there is a
command line for it whatever it looks like. -/
theorem stamped_as_printed {b : Brackets} {e : Encoding} {head closing rest : List Char}
    {template : String} (r : Revision)
    (hhead : AttributeLine.Spells (AttributeLine.headWords b) head)
    (hclosing : AttributeLine.Closes b closing) (hmark : e.mark ≠ [])
    (hnewline : '\n' ∉ head ++ template.toList ++ (closing ++ rest)) (hquote : '"' ∉ rest) :
    Options.parse ["--revision", "--format=" ++ template]
        = .ok { revision := true, format? := some template } ∧
      (∀ (h : Host) (arguments : List String) (o : Options) (c : Config),
        Options.parse arguments = .ok o → o.revision = true → o.format? = some template →
        o.Uses h c r →
        (run h arguments).code = 0 ∧
          (run h arguments).output = Template.render template r ++ "\n") ∧
      Stamp.stampBytes b r (e.encode (head ++ template.toList ++ (closing ++ rest)))
        = (e.encode (head ++ (Template.render template r).toList ++ (closing ++ rest)), ⟨1, e⟩) ∧
      ∀ (h : Host) (input output : Path) (files : FileTree),
        Brackets.ofOutput output = .ok b →
        h.files.read h.workdir input
          = .ok (e.encode (head ++ template.toList ++ (closing ++ rest))) →
        h.files.write h.workdir output
            (e.encode (head ++ (Template.render template r).toList ++ (closing ++ rest)))
          = .ok files →
        Stamp.stampFile h input output r = (.ok ⟨1, e⟩, files) ∧
          files.content? h.workdir output
            = some (e.encode (head ++ (Template.render template r).toList ++ (closing ++ rest))) := by
  have hparts := hnewline
  simp only [List.mem_append, not_or] at hparts
  obtain ⟨⟨-, hvalue⟩, -, hrest⟩ := hparts
  have hline := AttributeLine.of?_append hhead hvalue hclosing hquote hrest
  have hprinted : (Template.render template r).toList = Template.expand r template.toList :=
    String.toList_ofList
  have hbytes : Stamp.stampBytes b r (e.encode (head ++ template.toList ++ (closing ++ rest)))
      = (e.encode (head ++ (Template.render template r).toList ++ (closing ++ rest)), ⟨1, e⟩) := by
    rw [Stamp.stampBytes_encode_line hline hnewline hmark r, hprinted]
    rfl
  refine ⟨parse_revision_format template, ?_, hbytes, ?_⟩
  · intro h arguments o c hparse hrevision hformat huses
    exact run_of_revision_format hparse hrevision hformat huses
  · intro h input output files hb hread hwrite
    have hwrite' : h.files.write h.workdir output (Stamp.stampBytes b r
        (e.encode (head ++ template.toList ++ (closing ++ rest)))).1 = .ok files := by
      rw [hbytes]
      exact hwrite
    refine ⟨?_, FileTree.content?_write hwrite⟩
    rw [Stamp.stampFile_of_write_ok hb hread hwrite', hbytes]

/-- A template that looks like the end of an attribute, and goes on beyond U+FFFF. -/
def imitation : String := "1\")]\x7bcommit:5\x7d😀"

/-- What stands before it. -/
def imitationHead : List Char := "[assembly: AssemblyInformationalVersion(\"".toList

theorem stamped_as_printed_imitation :
    (run dirtyHost ["--revision", "--format=" ++ imitation]).output
        = Template.render imitation dirtyRevision ++ "\n" ∧
      Stamp.stampBytes .square dirtyRevision ((Encoding.utf16 .little).encode
          (imitationHead ++ imitation.toList ++ ("\")]".toList ++ " // \x7b!\x7d".toList)))
        = ((Encoding.utf16 .little).encode
            (imitationHead ++ (Template.render imitation dirtyRevision).toList
              ++ ("\")]".toList ++ " // \x7b!\x7d".toList)), ⟨1, .utf16 .little⟩) := by
  have hline : AttributeLine.of? .square (imitationHead ++ "\")]".toList)
      = some ⟨imitationHead, [], "\")]".toList⟩ := by decide +kernel
  have hclosing : AttributeLine.Closes .square "\")]".toList :=
    .signs (x := []) (y := []) (by simp) (by simp)
  have hmark : (Encoding.utf16 .little).mark ≠ [] := by decide
  have hnewline : '\n' ∉ imitationHead ++ imitation.toList
      ++ ("\")]".toList ++ " // \x7b!\x7d".toList) := by decide +kernel
  have hquote : '"' ∉ " // \x7b!\x7d".toList := by decide
  obtain ⟨hparse, hprints, hstamps, -⟩ := stamped_as_printed dirtyRevision
    (AttributeLine.of?_eq_some_iff.1 hline).2.1 hclosing hmark hnewline hquote
  refine ⟨(hprints dirtyHost _ _ {} hparse rfl rfl
    ⟨rfl, dirtyHost.workdir.path, rfl, ?_⟩).2, hstamps⟩
  exact Vcs.Lookup.revision_eq_ok_iff.1 revision_dirtyHost

end CommandLine

end CommitStamp
