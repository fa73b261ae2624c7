import CommitStamp.Proofs.Host.Agreement
import CommitStamp.Proofs.Host.Frame
import CommitStamp.Proofs.Stamp.Form
import CommitStamp.Proofs.Text.Lowercase
/-!
# All or nothing

A job makes its checks in a fixed order: the tree, the name of the output, the input, and then what
is read and written. `Job.Refused` says for each error what must have gone well before it, and
`Job.run_all_or_nothing` that this decides what a job comes to: an error leaves all files alone, and
without one the output holds the text that the input had before the job, stamped and in the encoding
of the input.
-/

namespace CommitStamp

open Text

/-! ## The kind of a file -/

namespace Brackets

variable {b : Brackets} {p : Path}

/-- How the names of files end that use these brackets. -/
def ending : Brackets → List Char
  | square => "cs".toList
  | angle => "vb".toList

/-- A file of this name uses these brackets: its name ends so, in capital or small letters. -/
def UsedBy (b : Brackets) (p : Path) : Prop :=
  ∃ ending, p.extension? = some ending ∧ ending.map Char.toLower = b.ending

theorem isPlainLetter_of_mem_ending : ∀ c ∈ b.ending, IsPlainLetter c := by
  cases b <;> simp [ending, IsPlainLetter]

theorem dottedExtension_eq_iff : dottedExtension p = '.' :: b.ending ↔ b.UsedBy p := by
  unfold dottedExtension UsedBy
  cases p.extension? with
  | none => simp
  | some ending => simp [lowercase_eq_iff isPlainLetter_of_mem_ending]

/-- The brackets are those that a file of this name uses. -/
theorem ofOutput_eq_ok_iff : ofOutput p = .ok b ↔ b.UsedBy p := by
  have hcs : ".cs".toList = '.' :: square.ending := rfl
  have hvb : ".vb".toList = '.' :: angle.ending := rfl
  rw [← dottedExtension_eq_iff, ofOutput, hcs, hvb]
  split_ifs with h h'
  · rw [h]
    cases b <;> simp [ending]
  · rw [h']
    cases b <;> simp [ending]
  · cases b <;> simp [h, h']

theorem ofOutput_of_not_usedBy (h : ∀ b : Brackets, ¬b.UsedBy p) :
    ofOutput p = .error ⟨String.ofList (dottedExtension p)⟩ := by
  cases hp : ofOutput p with
  | ok b => exact absurd (ofOutput_eq_ok_iff.1 hp) (h b)
  | error e =>
    unfold ofOutput at hp
    dsimp only at hp
    split_ifs at hp
    exact hp.symm

end Brackets

namespace Stamp

variable {j : Job} {h : Host} {r : Revision} {e : Error}

/-- What a job is refused for. Every check is made when those before it have been passed. -/
inductive Job.Refused (j : Job) (h : Host) (r : Revision) : Error → Prop where
  | dirtyTree (hdirty : j.refuseDirty ∧ r.dirty) : Job.Refused j h r .dirtyTree
  | unsupported (hclean : ¬(j.refuseDirty ∧ r.dirty))
      (hkind : ∀ b : Brackets, ¬b.UsedBy j.output) :
      Job.Refused j h r (.unsupported ⟨String.ofList (Brackets.dottedExtension j.output)⟩)
  | noInput {b : Brackets} (hclean : ¬(j.refuseDirty ∧ r.dirty)) (hb : b.UsedBy j.output)
      (hinput : ¬h.LeadsToFile j.input) : Job.Refused j h r (.noInput j.input)
  | read {b : Brackets} {fault : SystemFault} (hclean : ¬(j.refuseDirty ∧ r.dirty))
      (hb : b.UsedBy j.output) (hinput : h.LeadsToFile j.input)
      (hread : h.files.read h.workdir j.input = .error fault) :
      Job.Refused j h r (.file (.read j.input fault))
  | write {b : Brackets} {content : Bytes} {e : Encoding} {fault : SystemFault}
      (hclean : ¬(j.refuseDirty ∧ r.dirty)) (hb : b.UsedBy j.output)
      (hinput : h.LeadsToFile j.input) (hread : h.files.read h.workdir j.input = .ok content)
      (he : Encoding.detect content = e)
      (hwrite : h.files.write h.workdir j.output (e.encode (stampText b r (e.decode content)).1)
        = .error fault) :
      Job.Refused j h r (.file (.write j.output fault))

/-- A refused job changes nothing. -/
theorem Job.run_of_refused (he : j.Refused h r e) : j.run h r = (.error e, h.files) := by
  cases he with
  | dirtyTree hdirty => exact if_pos hdirty
  | unsupported hclean hkind =>
    simp only [run, if_neg hclean, Brackets.ofOutput_of_not_usedBy hkind]
  | noInput hclean hb hinput =>
    rw [← Host.hasFile_iff] at hinput
    simp only [run, if_neg hclean, Brackets.ofOutput_eq_ok_iff.2 hb, if_neg hinput]
  | read hclean hb hinput hread =>
    simp only [run, if_neg hclean, stampFile, Brackets.ofOutput_eq_ok_iff.2 hb,
      if_pos (Host.hasFile_iff.2 hinput), hread]
    rfl
  | @write b content e fault hclean hb hinput hread he hwrite =>
    subst he
    have hwrite' : h.files.write h.workdir j.output (stampBytes b r content).1 = .error fault :=
      hwrite
    simp only [run, if_neg hclean, stampFile, Brackets.ofOutput_eq_ok_iff.2 hb,
      if_pos (Host.hasFile_iff.2 hinput), hread, hwrite']
    rfl

theorem Job.run_of_stamps {b : Brackets} {content : Bytes} {files : FileTree}
    (hclean : ¬(j.refuseDirty ∧ r.dirty)) (hinput : h.LeadsToFile j.input)
    (hstamps : Stamps h j.input j.output r b content files) :
    j.run h r = (.ok (stampBytes b r content).2, files) := by
  simp only [run, if_neg hclean, hstamps.brackets, if_pos (Host.hasFile_iff.2 hinput),
    stampFile_of_write_ok hstamps.brackets hstamps.read hstamps.write]
  rfl

/-- The checks are complete: a job that is not refused stamps its file. -/
theorem Job.exists_refused_or_stamps (j : Job) (h : Host) (r : Revision) :
    (∃ e, j.Refused h r e) ∨
      ∃ b content files, Stamps h j.input j.output r b content files ∧
        j.run h r = (.ok (stampBytes b r content).2, files) := by
  by_cases hclean : j.refuseDirty ∧ r.dirty
  · exact .inl ⟨_, .dirtyTree hclean⟩
  by_cases hkind : ∃ b : Brackets, b.UsedBy j.output
  case neg => exact .inl ⟨_, .unsupported hclean (not_exists.1 hkind)⟩
  obtain ⟨b, hb⟩ := hkind
  by_cases hinput : h.LeadsToFile j.input
  · cases hread : h.files.read h.workdir j.input with
    | error fault => exact .inl ⟨_, .read hclean hb hinput hread⟩
    | ok content =>
      cases hwrite : h.files.write h.workdir j.output (stampBytes b r content).1 with
      | error fault => exact .inl ⟨_, .write hclean hb hinput hread rfl hwrite⟩
      | ok files =>
        have hstamps := Stamps.mk (Brackets.ofOutput_eq_ok_iff.2 hb) hread hwrite
        exact .inr ⟨b, content, files, hstamps, run_of_stamps hclean hinput hstamps⟩
  · exact .inl ⟨_, .noInput hclean hb hinput⟩

/-- **A job is done as a whole or not at all.** It is refused for the first check that fails, and
then all files are as they were. If none fails, the file at one place holds another content: the
output leads there, and every path that does has at its end the text that the input had before, also
where the input is one of them, stamped and in the encoding that the input had. At the end of any
other path stands what stood there. -/
theorem Job.run_all_or_nothing (j : Job) (h : Host) (r : Revision) :
    (∀ e, (j.run h r).1 = .error e ↔ j.Refused h r e) ∧
      (∀ e, (j.run h r).1 = .error e → (j.run h r).2 = h.files) ∧
      ((∀ e, ¬j.Refused h r e) → ∃ report, (j.run h r).1 = .ok report) ∧
      ∀ report, (j.run h r).1 = .ok report →
        ∃ b content text place,
          Brackets.UsedBy b j.output ∧ h.files.content? h.workdir j.input = some content ∧
          report.encoding = Encoding.detect content ∧
          stampText b r (report.encoding.decode content) = (text, report.attributes) ∧
          (j.run h r).2.find h.workdir j.output = .ok place ∧
          h.files.Wrote (j.run h r).2 place (report.encoding.encode text) ∧
          (∀ here p, (j.run h r).2.find here p = .ok place →
            (j.run h r).2.content? here p = some (report.encoding.encode text)) ∧
          ∀ here p, (j.run h r).2.find here p ≠ .ok place →
            (j.run h r).2.content? here p = h.files.content? here p := by
  rcases j.exists_refused_or_stamps h r with ⟨e, he⟩ | ⟨b, content, files, hstamps, hrun⟩
  · rw [run_of_refused he]
    refine ⟨fun e' => ⟨?_, fun he' => ?_⟩, fun _ _ => rfl, fun hnone => absurd he (hnone e),
      fun _ hok => absurd hok (by simp)⟩
    · rintro ⟨⟩
      exact he
    · have hsame := (run_of_refused he).symm.trans (run_of_refused he')
      exact (Prod.mk.inj hsame).1
  · obtain ⟨place, hplace, hwrote⟩ := FileTree.exists_wrote hstamps.write
    rw [hrun]
    refine ⟨fun e => ⟨fun he => absurd he (by simp), fun he => ?_⟩,
      fun e he => absurd he (by simp), fun _ => ⟨_, rfl⟩, ?_⟩
    · rw [run_of_refused he] at hrun
      exact absurd (Prod.mk.inj hrun).1 (by simp)
    · rintro _ ⟨⟩
      exact ⟨b, content, _, place, Brackets.ofOutput_eq_ok_iff.1 hstamps.brackets,
        FileTree.content?_of_read hstamps.read, rfl, rfl, hplace, hwrote,
        fun _ _ hp => hwrote.content?_of_find hp, fun _ _ hp => hwrote.content?_eq hp⟩

/-- A job that stamps a file in place, on the host of `utf16Line`. -/
def inPlace : Job where
  input := ⟨"A.vb".toList⟩
  output := ⟨"A.vb".toList⟩
  refuseDirty := true

/-- The text of `utf16Line` after it was stamped in a clean tree. -/
def cleanLine : List Char :=
  "\n<assembly: AssemblyInformationalVersion(\"1.2\")>".toList

/-- A working directory that takes no new files. `A.vb` may be written but not read, `B.vb` read but
not written, and `C.vb` is a link to the first. -/
def guarded : Host :=
  { singleFile utf16Line with
    files :=
      (((FileTree.empty.put [] (.directory { writable := false })).put ["A.vb".toList]
        (.file { content := utf16Line, readable := false })).put ["B.vb".toList]
        (.file { content := utf16Line, writable := false })).put ["C.vb".toList]
        (.link (.symbolic ⟨"A.vb".toList⟩)) }

/-- The file is read before it is written, and of two checks that fail the first is named. A file
that may not be read or written is named as such; and what is written through a link stands in the
file that the link leads to. -/
theorem Job.run_all_or_nothing_inPlace :
    (inPlace.run (singleFile utf16Line) (.sentinel (singleFile utf16Line).now)).2.content? []
        inPlace.input = some ((Encoding.utf16 .little).encode cleanLine) ∧
      (Job.run ⟨⟨"B.vb".toList⟩, ⟨"A.txt".toList⟩, false⟩ (singleFile utf16Line)
        (.sentinel (singleFile utf16Line).now)).1 = .error (.unsupported ⟨".txt"⟩) ∧
      (Job.run ⟨⟨"A.vb".toList⟩, ⟨"B.vb".toList⟩, false⟩ guarded (.sentinel guarded.now)).1
        = .error (.file (.read ⟨"A.vb".toList⟩ .denied)) ∧
      (Job.run ⟨⟨"B.vb".toList⟩, ⟨"D.vb".toList⟩, false⟩ guarded (.sentinel guarded.now)).1
        = .error (.file (.write ⟨"D.vb".toList⟩ .denied)) ∧
      (Job.run ⟨⟨"B.vb".toList⟩, ⟨"C.vb".toList⟩, false⟩ guarded
        (.sentinel guarded.now)).2.content? [] ⟨"A.vb".toList⟩
        = some ((Encoding.utf16 .little).encode cleanLine) := by
  have hvb : ∀ {p : Path}, Brackets.ofOutput p = .ok .angle → Brackets.angle.UsedBy p :=
    Brackets.ofOutput_eq_ok_iff.1
  have hline : stampText .angle (.sentinel (singleFile utf16Line).now)
      ((Encoding.detect utf16Line).decode utf16Line) = (cleanLine, 1) := by decide +kernel
  -- a job that stamps this line, and a path that leads where its output does
  have hstamped : ∀ {j : Job} {h : Host} {files : FileTree} {p : Path},
      ¬(j.refuseDirty ∧ (Revision.sentinel (singleFile utf16Line).now).dirty) →
      h.LeadsToFile j.input →
      Stamps h j.input j.output (.sentinel (singleFile utf16Line).now) .angle utf16Line files →
      files.find [] p = files.find h.workdir j.output →
      (j.run h (.sentinel (singleFile utf16Line).now)).2.content? [] p
        = some ((Encoding.utf16 .little).encode cleanLine) := by
    intro j h files p hclean hinput hstamps hp
    have hrun := Job.run_of_stamps hclean hinput hstamps
    obtain ⟨b, content, text, place, hb, hcontent, hencoding, htext, hplace, -, hsame, -⟩ :=
      (Job.run_all_or_nothing j h _).2.2.2 _ (congrArg Prod.fst hrun)
    obtain rfl := Option.some.inj ((FileTree.content?_of_read hstamps.read).symm.trans hcontent)
    obtain rfl := Except.ok.inj (hstamps.brackets.symm.trans (Brackets.ofOutput_eq_ok_iff.2 hb))
    rw [hencoding, hline] at htext
    rw [hrun] at hplace hsame ⊢
    rw [hsame [] p (hp.trans hplace), ← (Prod.mk.inj htext).1]
    rfl
  refine ⟨hstamped (by decide) (Host.hasFile_iff.1 rfl) ⟨rfl, rfl, rfl⟩ rfl, ?_, ?_, ?_,
    hstamped (by decide) (Host.hasFile_iff.1 rfl) ⟨rfl, rfl, rfl⟩ rfl⟩
  · refine ((Job.run_all_or_nothing _ _ _).1 _).2 (.unsupported (by decide) ?_)
    intro b hb
    have htxt : Brackets.ofOutput ⟨"A.txt".toList⟩ = .error ⟨".txt"⟩ := rfl
    exact absurd (htxt.symm.trans (Brackets.ofOutput_eq_ok_iff.2 hb)) (by simp)
  · exact ((Job.run_all_or_nothing _ _ _).1 _).2
      (.read (by decide) (hvb rfl) (Host.hasFile_iff.1 rfl) rfl)
  · exact ((Job.run_all_or_nothing _ _ _).1 _).2
      (.write (by decide) (hvb rfl) (Host.hasFile_iff.1 rfl) rfl rfl rfl)

end Stamp

end CommitStamp
