import CommitStamp.Proofs.Attribute.Restamping
import CommitStamp.Proofs.Encoding.RoundTrip
import CommitStamp.Proofs.Host.Writing
import CommitStamp.Stamp.Job
/-!
# The bytes of a stamped file

A text is a *form* with the values of its attributes as fields. Stamping fills the same form with
the rendered values (`fill_ofLines_expand`). Where a file holds its text without a defect, encoding
gives its bytes back, so the bytes outside the fields are the same before and after
(`stampBytes_fills_form`), and these are the bytes that the output file is found with. If one file
cannot be read or the other not written, all files are left alone (`stampFile_cases`).
-/

namespace CommitStamp

open Text

/-! ## Forms -/

/-- A text with fields. -/
structure Form where
  /-- What stands before the first field. -/
  first : List Char
  /-- What the fields hold, each with what stands between it and the next. -/
  fields : List (List Char × List Char)

namespace Form

/-- The text of a form whose fields hold something else. -/
def fill (f : List Char → List Char) (form : Form) : List Char :=
  form.first ++ form.fields.flatMap fun (value, next) => f value ++ next

/-- What the fields hold. -/
def values (form : Form) : List (List Char) :=
  form.fields.map Prod.fst

/-- The form with some text before it. -/
def after (s : List Char) (form : Form) : Form :=
  ⟨s ++ form.first, form.fields⟩

/-- The form with some text and one more field before it. -/
def field (s value : List Char) (form : Form) : Form :=
  ⟨s, (value, form.first) :: form.fields⟩

/-- The form that lines make up: each attribute line has its value as a field. -/
def ofLines (b : Brackets) : List Line → Form
  | [] => ⟨[], []⟩
  | l :: ls =>
    match AttributeLine.of? b l.body with
    | some a => field a.head a.value (after (a.tail ++ l.terminator.text) (ofLines b ls))
    | none => after l.text (ofLines b ls)

@[simp] theorem fill_after (f : List Char → List Char) (s : List Char) (form : Form) :
    (after s form).fill f = s ++ form.fill f := by
  rw [after, fill, fill, List.append_assoc]

@[simp] theorem fill_field (f : List Char → List Char) (s value : List Char) (form : Form) :
    (field s value form).fill f = s ++ (f value ++ form.fill f) := by
  rw [field, fill, fill, List.flatMap_cons, List.append_assoc]

@[simp] theorem values_after (s : List Char) (form : Form) : (after s form).values = form.values :=
  rfl

@[simp] theorem values_field (s value : List Char) (form : Form) :
    (field s value form).values = value :: form.values := rfl

theorem length_values (form : Form) : form.values.length = form.fields.length :=
  List.length_map _

theorem fill_of_fields_eq_nil {form : Form} (h : form.fields = []) (f g : List Char → List Char) :
    form.fill f = form.fill g := by
  rw [fill, fill, h]
  rfl

/-- The lines with their own values in the fields. -/
theorem fill_ofLines_id (b : Brackets) (ls : List Line) :
    (ofLines b ls).fill id = ls.flatMap Line.text := by
  induction ls with
  | nil => rfl
  | cons l ls ih =>
    rw [ofLines, List.flatMap_cons]
    cases h : AttributeLine.of? b l.body with
    | none =>
      show (after l.text (ofLines b ls)).fill id = _
      rw [fill_after, ih]
    | some a =>
      have hbody : l.body = a.text := (AttributeLine.of?_eq_some_iff.1 h).1
      show (field a.head a.value _).fill id = _
      rw [fill_field, fill_after, ih, Line.text, hbody, AttributeLine.text]
      simp only [id, List.append_assoc]

/-- **Stamping fills the form.** -/
theorem fill_ofLines_expand (b : Brackets) (r : Revision) (ls : List Line) :
    (ofLines b ls).fill (Template.expand r) = (ls.map (Line.stamp b r)).flatMap Line.text := by
  induction ls with
  | nil => rfl
  | cons l ls ih =>
    rw [ofLines, List.map_cons, List.flatMap_cons, Line.text_stamp]
    cases h : AttributeLine.of? b l.body with
    | none =>
      show (after l.text (ofLines b ls)).fill (Template.expand r) = _
      rw [fill_after, ih, stampLine_of_none h, Line.text]
    | some a =>
      show (field a.head a.value _).fill (Template.expand r) = _
      rw [fill_field, fill_after, ih, stampLine_of_some h, AttributeLine.text]
      simp only [AttributeLine.stamp, List.append_assoc]

/-- The fields are the values of the attribute lines. -/
theorem values_ofLines (b : Brackets) (ls : List Line) :
    (ofLines b ls).values
      = ls.filterMap fun l => (AttributeLine.of? b l.body).map AttributeLine.value := by
  induction ls with
  | nil => rfl
  | cons l ls ih =>
    rw [ofLines, List.filterMap_cons]
    cases h : AttributeLine.of? b l.body with
    | none =>
      show (after l.text (ofLines b ls)).values = _
      rw [values_after, ih]
      rfl
    | some a =>
      show (field a.head a.value _).values = _
      rw [values_field, values_after, ih]
      rfl

/-- There are as many fields as attribute lines. -/
theorem length_fields_ofLines (b : Brackets) (ls : List Line) :
    (ofLines b ls).fields.length
      = ls.countP fun l => (AttributeLine.of? b l.body).isSome := by
  rw [← length_values, values_ofLines, List.length_filterMap_eq_countP]
  simp only [Option.isSome_map]

end Form

/-! ## Bytes -/

namespace Stamp

variable {b : Brackets} {r : Revision} {content : Bytes}

/-- The form of a file: its text, as it is read, with the attribute values as fields. -/
def formOf (b : Brackets) (content : Bytes) : Form :=
  Form.ofLines b (lines ((Encoding.detect content).decode content))

/-- Files without a byte-order mark are read without a defect in any case. -/
theorem wellFormed_of_marked
    (h : Encoding.detect content ≠ .utf8 → Encoding.detect content ≠ .latin1 →
      (Encoding.detect content).WellFormed ((Encoding.detect content).body content)) :
    (Encoding.detect content).WellFormed ((Encoding.detect content).body content) := by
  by_cases hutf8 : Encoding.detect content = .utf8
  · exact Encoding.wellFormed_detect (by rw [hutf8]; rfl)
  by_cases hlatin1 : Encoding.detect content = .latin1
  · exact Encoding.wellFormed_detect (by rw [hlatin1]; rfl)
  · exact h hutf8 hlatin1

/-- A file without defects is its form as it stands. -/
theorem encode_fill_formOf_id (b : Brackets)
    (h : (Encoding.detect content).WellFormed ((Encoding.detect content).body content)) :
    (Encoding.detect content).encode ((formOf b content).fill id) = content := by
  rw [formOf, Form.fill_ofLines_id, text_lines, Encoding.encode_decode h]

theorem stampBytes_eq (b : Brackets) (r : Revision) (content : Bytes) :
    stampBytes b r content
      = ((Encoding.detect content).encode ((formOf b content).fill (Template.expand r)),
        ⟨(formOf b content).fields.length, Encoding.detect content⟩) := by
  rw [formOf, Form.fill_ofLines_expand, Form.length_fields_ofLines]
  rfl

/-! ## Files -/

theorem stampFile_of_write_ok {host : Host} {input output : Path} {files : FileTree}
    (hb : Brackets.ofOutput output = .ok b)
    (hread : host.files.read host.workdir input = .ok content)
    (hwrite : host.files.write host.workdir output (stampBytes b r content).1 = .ok files) :
    stampFile host input output r = (.ok (stampBytes b r content).2, files) := by
  simp only [stampFile, hb, hread, hwrite]

/-- The output names a kind of file that is known, the input can be read, and what comes of it can
be written; `files` is the tree afterwards. -/
structure Stamps (host : Host) (input output : Path) (r : Revision) (b : Brackets)
    (content : Bytes) (files : FileTree) : Prop where
  brackets : Brackets.ofOutput output = .ok b
  read : host.files.read host.workdir input = .ok content
  write : host.files.write host.workdir output (stampBytes b r content).1 = .ok files

/-- **Stamping a file** succeeds with the write, or leaves all files alone. -/
theorem stampFile_cases (host : Host) (input output : Path) (r : Revision) :
    (∃ b content files, Stamps host input output r b content files ∧
        stampFile host input output r = (.ok (stampBytes b r content).2, files)) ∨
      ∃ o, stampFile host input output r = (.error o, host.files) := by
  cases hb : Brackets.ofOutput output with
  | error e => exact .inr ⟨.unsupported e, by simp only [stampFile, hb]⟩
  | ok b =>
    cases hread : host.files.read host.workdir input with
    | error fault => exact .inr ⟨.file (.read input fault), by simp only [stampFile, hb, hread]⟩
    | ok content =>
      cases hwrite : host.files.write host.workdir output (stampBytes b r content).1 with
      | error fault =>
        exact .inr ⟨.file (.write output fault), by simp only [stampFile, hb, hread, hwrite]⟩
      | ok files =>
        exact .inl ⟨b, content, files, ⟨hb, hread, hwrite⟩, stampFile_of_write_ok hb hread hwrite⟩

/-- **Only the values change.** A file without defects is the form of its text, encoded; what is
written instead of it is the same form with the values rendered, so without attributes it is the
file itself. If the output can be written at all, the run succeeds and leaves these bytes there. -/
theorem stampBytes_fills_form (b : Brackets) (r : Revision) (content : Bytes)
    (h : Encoding.detect content ≠ .utf8 → Encoding.detect content ≠ .latin1 →
      (Encoding.detect content).WellFormed ((Encoding.detect content).body content)) :
    content = (Encoding.detect content).encode ((formOf b content).fill id) ∧
      stampBytes b r content
        = ((Encoding.detect content).encode ((formOf b content).fill (Template.expand r)),
          ⟨(formOf b content).fields.length, Encoding.detect content⟩) ∧
      (formOf b content).values
        = (lines ((Encoding.detect content).decode content)).filterMap (fun l =>
            (AttributeLine.of? b l.body).map AttributeLine.value) ∧
      ((stampBytes b r content).2.attributes = 0 → (stampBytes b r content).1 = content) ∧
      ∀ (host : Host) (input output : Path) (files : FileTree),
        Brackets.ofOutput output = .ok b →
        host.files.read host.workdir input = .ok content →
        host.files.write host.workdir output (stampBytes b r content).1 = .ok files →
        stampFile host input output r = (.ok (stampBytes b r content).2, files) ∧
          files.content? host.workdir output = some (stampBytes b r content).1 := by
  have hsame : (Encoding.detect content).encode ((formOf b content).fill id) = content :=
    encode_fill_formOf_id b (wellFormed_of_marked h)
  refine ⟨hsame.symm, stampBytes_eq b r content, Form.values_ofLines b _, ?_, ?_⟩
  · rw [stampBytes_eq]
    intro hzero
    -- without fields it does not matter what they are filled with
    rw [Form.fill_of_fields_eq_nil (List.eq_nil_of_length_eq_zero hzero) (Template.expand r) id]
    exact hsame
  · intro host input output files hb hread hwrite
    exact ⟨stampFile_of_write_ok hb hread hwrite, FileTree.content?_write hwrite⟩

/-- An attribute line in UTF-16, the last of its file. -/
def utf16Line : Bytes :=
  (Encoding.utf16 .little).encode
    "\n<assembly: AssemblyInformationalVersion(\"1.2\x7b!:-dirty\x7d\")>".toList

/-- A working directory with one file, `A.vb`. -/
def singleFile (content : Bytes) : Host where
  files := FileTree.empty.put ["A.vb".toList] (.file { content })
  workdir := []
  searchPath? := none
  binary? := none
  now := (do Timestamp.of? (← Date.of? 2011 12 31) (← TimeOfDay.of? 14 30 45 500000000) 3600).get
    (by decide)

/-- The line is stamped in place. -/
theorem stampBytes_fills_form_utf16Line :
    (stampFile (singleFile utf16Line) ⟨"A.vb".toList⟩ ⟨"A.vb".toList⟩
        (.sentinel (singleFile utf16Line).now)).1 = .ok ⟨1, .utf16 .little⟩ ∧
      (stampFile (singleFile utf16Line) ⟨"A.vb".toList⟩ ⟨"A.vb".toList⟩
        (.sentinel (singleFile utf16Line).now)).2.content? [] ⟨"A.vb".toList⟩
        = some (stampBytes .angle (.sentinel (singleFile utf16Line).now) utf16Line).1 := by
  have hwf : (Encoding.detect utf16Line).WellFormed
      ((Encoding.detect utf16Line).body utf16Line) := by decide +kernel
  have hb : Brackets.ofOutput ⟨"A.vb".toList⟩ = .ok .angle := rfl
  have hread : (singleFile utf16Line).files.read (singleFile utf16Line).workdir ⟨"A.vb".toList⟩
      = .ok utf16Line := rfl
  have hwrite : (singleFile utf16Line).files.write (singleFile utf16Line).workdir
      ⟨"A.vb".toList⟩ (stampBytes .angle (.sentinel (singleFile utf16Line).now) utf16Line).1
      = .ok ((singleFile utf16Line).files.put ["A.vb".toList] (.file {
          content := (stampBytes .angle (.sentinel (singleFile utf16Line).now) utf16Line).1 })) :=
    rfl
  have hreport : (stampBytes .angle (.sentinel (singleFile utf16Line).now) utf16Line).2
      = ⟨1, .utf16 .little⟩ := by decide +kernel
  have hfill := stampBytes_fills_form .angle (.sentinel (singleFile utf16Line).now) utf16Line
    fun _ _ => hwf
  obtain ⟨hrun, hafter⟩ := hfill.2.2.2.2 _ _ _ _ hb hread hwrite
  rw [hrun]
  exact ⟨congrArg Except.ok hreport, hafter⟩

end Stamp

end CommitStamp
