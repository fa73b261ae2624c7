import CommitStamp.Proofs.Encoding.Detection
import CommitStamp.Proofs.Stamp.Form
import CommitStamp.Proofs.Text.Numeral
/-!
# The encoding of a stamped file

Two things about a text decide how the file that holds it is read: its first character, and whether
it has characters beyond the first 256. Stamping changes neither. It fills the fields of a form,
which starts with the head of a line if it has a field at all (`head?_stampText`), and it brings in
no other characters than those of hashes and dates (`mem_stampText`). So a stamped file is read in
the encoding of the input, and its text is the stamped text.
-/

namespace CommitStamp

open Text

/-! ## What filling leaves alone -/

namespace Form

variable {form : Form} {f g : List Char → List Char} {c : Char}

/-- A form that starts before its first field has the same first character with any fields. -/
theorem head?_fill (h : form.first = [] → form.fields = []) :
    (form.fill f).head? = (form.fill g).head? := by
  by_cases hfirst : form.first = []
  · rw [fill_of_fields_eq_nil (h hfirst) f g]
  · rw [fill, fill, List.head?_append, List.head?_append, List.head?_eq_some_head hfirst]
    rfl

theorem mem_fill :
    c ∈ form.fill f ↔ c ∈ form.first ∨ ∃ x ∈ form.fields, c ∈ f x.1 ∨ c ∈ x.2 := by
  simp only [fill, List.mem_append, List.mem_flatMap]

/-- The first field comes after the head of its line. -/
theorem fields_ofLines_eq_nil {b : Brackets} {ls : List Line} (h : (ofLines b ls).first = []) :
    (ofLines b ls).fields = [] := by
  induction ls with
  | nil => rfl
  | cons l ls ih =>
    rw [ofLines] at h ⊢
    cases ha : AttributeLine.of? b l.body with
    | some a =>
      rw [ha] at h
      exact absurd h (AttributeLine.head_ne_nil ha)
    | none =>
      rw [ha] at h
      exact ih (List.append_eq_nil_iff.1 h).2

end Form

/-! ## Stamped texts -/

theorem fill_lines_id (b : Brackets) (text : List Char) :
    (Form.ofLines b (lines text)).fill id = text := by
  rw [Form.fill_ofLines_id, text_lines]

theorem fill_lines_expand (b : Brackets) (r : Revision) (text : List Char) :
    (Form.ofLines b (lines text)).fill (Template.expand r) = (stampText b r text).1 :=
  Form.fill_ofLines_expand b r (lines text)

/-- **The first character** of a text stays. -/
theorem head?_stampText (b : Brackets) (r : Revision) (text : List Char) :
    (stampText b r text).1.head? = text.head? := by
  have hhead : ((Form.ofLines b (lines text)).fill (Template.expand r)).head?
      = ((Form.ofLines b (lines text)).fill id).head? :=
    Form.head?_fill Form.fields_ofLines_eq_nil
  rwa [fill_lines_expand, fill_lines_id] at hhead

/-- **The characters** of a stamped text were there before or are those of hashes and dates. -/
theorem mem_stampText {b : Brackets} {r : Revision} {text : List Char} {c : Char}
    (h : c ∈ (stampText b r text).1) : c ∈ text ∨ isStampChar c = true := by
  rw [← fill_lines_expand, Form.mem_fill] at h
  rw [← fill_lines_id b text, Form.mem_fill]
  rcases h with hfirst | ⟨x, hx, hvalue | hnext⟩
  · exact .inl (.inl hfirst)
  · exact (Template.mem_expandBy hvalue).imp_left fun hmem => .inr ⟨x, hx, .inl hmem⟩
  · exact .inl (.inr ⟨x, hx, .inr hnext⟩)

theorem toNat_lt_of_isStampChar {c : Char} (h : isStampChar c = true) : c.toNat < 256 := by
  have hsigns : ("!+-:".toList.all fun d => decide (d.toNat < 256)) = true := by decide
  rw [isStampChar, isLowerHexDigit, Bool.or_eq_true, Bool.or_eq_true] at h
  rcases h with (hdigit | hletter) | hsign
  · exact Nat.lt_of_le_of_lt (toNat_of_isDigit hdigit).2 (by decide)
  · rw [Bool.and_eq_true, decide_eq_true_iff, decide_eq_true_iff] at hletter
    exact Nat.lt_of_le_of_lt (UInt32.le_iff_toNat_le.1 hletter.2) (by decide)
  · exact of_decide_eq_true (List.all_eq_true.1 hsigns c (List.contains_iff_mem.1 hsign))

/-! ## Files -/

namespace Encoding

/-- What is read has bytes to be written with. -/
theorem covers_decode (b : Bytes) : (detect b).Covers ((detect b).decode b) := by
  intro he
  have hwf : (detect b).WellFormed ((detect b).body b) := by
    rw [he]
    exact wellFormed_latin1 _
  refine covers_of_decode_encode ?_ he
  rw [encode_decode hwf]

/-- So has what comes of it. -/
theorem Covers.stampText {e : Encoding} {text : List Char} (h : e.Covers text) (b : Brackets)
    (r : Revision) : e.Covers (stampText b r text).1 := by
  intro he c hc
  rcases mem_stampText hc with hold | hnew
  · exact h he c hold
  · exact toNat_lt_of_isStampChar hnew

end Encoding

namespace Stamp

/-- **A stamped file keeps its encoding**, with or without defects in the input. -/
theorem stampBytes_keeps_encoding (b : Brackets) (r : Revision) (content : Bytes) :
    (Encoding.detect content).decode (stampBytes b r content).1
        = (stampText b r ((Encoding.detect content).decode content)).1 ∧
      (Encoding.detect content = .latin1 →
        ∀ c ∈ (stampText b r ((Encoding.detect content).decode content)).1, c.toNat ≤ 0xff) ∧
      (Encoding.detect content ≠ .latin1 →
        Encoding.detect (stampBytes b r content).1 = Encoding.detect content) ∧
      ∀ (host : Host) (input output : Path) (report : Report) (files : FileTree),
        Brackets.ofOutput output = .ok b →
        host.files.read host.workdir input = .ok content →
        stampFile host input output r = (.ok report, files) →
        files.content? host.workdir output = some (stampBytes b r content).1 ∧
          report.encoding = Encoding.detect content := by
  have hcovers := (Encoding.covers_decode content).stampText b r
  refine ⟨Encoding.decode_encode_of_covers hcovers, ?_, ?_, ?_⟩
  · intro he c hc
    exact Nat.le_of_lt_succ (hcovers he c hc)
  · intro he
    refine (Encoding.detect_encode_iff he _).2 fun c hc => ?_
    -- the first character is the one of the input, which was not misleading
    show (stampText b r _).1.head? ≠ some c
    rw [head?_stampText]
    exact Encoding.head?_decode_ne he c hc
  · intro host input output report files hb hread hfile
    rcases stampFile_cases host input output r with ⟨b', content', files', h, hdone⟩ | ⟨o, hdone⟩
    · obtain rfl := Except.ok.inj (hb.symm.trans h.brackets)
      obtain rfl := Except.ok.inj (hread.symm.trans h.read)
      rw [hdone] at hfile
      obtain ⟨hreport, rfl⟩ := Prod.mk.inj hfile
      refine ⟨FileTree.content?_write h.write, ?_⟩
      rw [← Except.ok.inj hreport]
      rfl
    · rw [hdone] at hfile
      exact absurd (congrArg Prod.fst hfile) (by rintro ⟨⟩)

/-- The attribute line in UTF-16 with one byte too many. -/
def oddLine : Bytes :=
  utf16Line ++ [0x20]

/-- A defect stays one character of the text, and the line is stamped in place. -/
theorem stampBytes_keeps_encoding_oddLine :
    ¬(Encoding.detect oddLine).WellFormed ((Encoding.detect oddLine).body oddLine) ∧
      ∃ files, stampFile (singleFile oddLine) ⟨"A.vb".toList⟩ ⟨"A.vb".toList⟩
          (.sentinel (singleFile oddLine).now) = (.ok ⟨1, .utf16 .little⟩, files) ∧
        ∃ stamped, files.content? [] ⟨"A.vb".toList⟩ = some stamped ∧
          Encoding.detect stamped = .utf16 .little ∧
          (Encoding.utf16 .little).decode stamped
            = (stampText .angle (.sentinel (singleFile oddLine).now)
                ((Encoding.utf16 .little).decode oddLine)).1 := by
  have hdetect : Encoding.detect oddLine = .utf16 .little := by decide +kernel
  have hreport : (stampBytes .angle (.sentinel (singleFile oddLine).now) oddLine).2
      = ⟨1, .utf16 .little⟩ := by decide +kernel
  obtain ⟨files, hfile⟩ : ∃ files, stampFile (singleFile oddLine) ⟨"A.vb".toList⟩ ⟨"A.vb".toList⟩
      (.sentinel (singleFile oddLine).now)
        = (.ok (stampBytes .angle (.sentinel (singleFile oddLine).now) oddLine).2, files) :=
    ⟨_, stampFile_of_write_ok rfl rfl rfl⟩
  obtain ⟨hdecode, -, hkeeps, hread⟩ :=
    stampBytes_keeps_encoding .angle (.sentinel (singleFile oddLine).now) oddLine
  rw [hdetect] at hdecode hkeeps
  obtain ⟨hfound, -⟩ := hread _ _ _ _ _ rfl rfl hfile
  refine ⟨by decide +kernel, files, hreport ▸ hfile, _, hfound, ?_, hdecode⟩
  exact hkeeps (by decide)

end Stamp

end CommitStamp
