import CommitStamp.Proofs.Revision.Fields
import CommitStamp.Proofs.Template.Composition
/-!
# Log lines are read as they are rendered

`parse?_eq_some_iff` says what a line of the log query consists of: four fields of fixed widths and
alphabets with spaces between them, in its first sixty-six characters. There is a template that
renders a revision to such a line, and reading is inverse to it: `parse?_renderedTime` in one
direction, `render_of_parse?` in the other. A line may have its hash in upper case and a zero offset
with a minus sign, which a rendering never has.
-/

namespace CommitStamp

open Text

/-! ## Hashes -/

namespace CommitHash

variable {c : Char} {s : List Char} {h : CommitHash}

theorem toNat_lt_of_isHexDigit (hc : isHexDigit c = true) : c.toNat < 128 := by
  have hbound : ∀ d : Char, c ≤ d → c.toNat ≤ d.toNat := fun d hd => UInt32.le_iff_toNat_le.1 hd
  simp only [isHexDigit, isDigit, Bool.or_eq_true, Bool.and_eq_true, decide_eq_true_iff] at hc
  rcases hc with (⟨-, hc⟩ | ⟨-, hc⟩) | ⟨-, hc⟩
  · exact Nat.lt_of_le_of_lt (hbound _ hc) (by decide)
  · exact Nat.lt_of_le_of_lt (hbound _ hc) (by decide)
  · exact Nat.lt_of_le_of_lt (hbound _ hc) (by decide)

/-- What holds of the hexadecimal digits among the first characters holds of all. -/
theorem of_isHexDigit {P : Char → Prop}
    (hall : ∀ n < 128, isHexDigit (Char.ofNat n) = true → P (Char.ofNat n))
    (hc : isHexDigit c = true) : P c := by
  have hnumber := hall c.toNat (toNat_lt_of_isHexDigit hc)
  rw [Char.ofNat_toNat] at hnumber
  exact hnumber hc

/-- On hexadecimal digits the lower-case form is the usual one. -/
theorem lowerHexDigit_eq_toLower (hc : isHexDigit c = true) : lowerHexDigit c = c.toLower :=
  of_isHexDigit (P := fun c => lowerHexDigit c = c.toLower) (by decide) hc

theorem isHexDigit_of_isLowerHexDigit (hc : isLowerHexDigit c = true) : isHexDigit c = true := by
  rw [isLowerHexDigit, Bool.or_eq_true] at hc
  rw [isHexDigit, Bool.or_eq_true, Bool.or_eq_true]
  exact .inl hc

theorem toLower_eq_self (hc : isLowerHexDigit c = true) : c.toLower = c :=
  of_isHexDigit (P := fun c => isLowerHexDigit c = true → c.toLower = c) (by decide)
    (isHexDigit_of_isLowerHexDigit hc) hc

theorem toLower_toUpper (hc : isLowerHexDigit c = true) : c.toUpper.toLower = c :=
  of_isHexDigit (P := fun c => isLowerHexDigit c = true → c.toUpper.toLower = c) (by decide)
    (isHexDigit_of_isLowerHexDigit hc) hc

/-- Only hexadecimal digits have a hexadecimal digit as their lower-case form. -/
theorem isHexDigit_of_toLower (hc : isLowerHexDigit c.toLower = true) : isHexDigit c = true := by
  have hcapital : ∀ n < 128, isLowerHexDigit (Char.ofNat n).toLower = true →
      isHexDigit (Char.ofNat n) = true := by decide
  by_cases hupper : c.val ≥ 'A'.val ∧ c.val ≤ 'Z'.val
  · have hlt : c.toNat < 128 := Nat.lt_of_le_of_lt (UInt32.le_iff_toNat_le.1 hupper.2) (by decide)
    have hhex := hcapital c.toNat hlt
    rw [Char.ofNat_toNat] at hhex
    exact hhex hc
  · have hsame : c.toLower = c := dif_neg hupper
    rw [hsame] at hc
    exact isHexDigit_of_isLowerHexDigit hc

theorem map_toLower (h : CommitHash) : h.digits.map Char.toLower = h.digits := by
  have hsame : h.digits.map Char.toLower = h.digits.map id :=
    List.map_congr_left fun c hc => toLower_eq_self (h.digits_hex c hc)
  rw [hsame, List.map_id]

/-- The upper-case form of a hash has the hash as its lower-case form. -/
theorem map_toLower_map_toUpper (h : CommitHash) :
    (h.digits.map Char.toUpper).map Char.toLower = h.digits := by
  have hback : h.digits.map (Char.toLower ∘ Char.toUpper) = h.digits.map id :=
    List.map_congr_left fun c hc => toLower_toUpper (h.digits_hex c hc)
  rw [List.map_map, hback, List.map_id]

theorem ofDigits?_eq_some_iff : ofDigits? s = some h ↔ s.map lowerHexDigit = h.digits := by
  obtain ⟨digits, hlen, hhex⟩ := h
  simp only [ofDigits?]
  constructor
  · intro heq
    split at heq
    · cases heq
      rfl
    · exact absurd heq (by simp)
  · rintro rfl
    rw [dif_pos ⟨hlen, List.all_eq_true.2 hhex⟩]

end CommitHash

/-! ## The fields of a line -/

namespace LogLine

variable {line s r field : List Char} {kind : Char → Bool} {width : Nat} {hash : CommitHash}
  {time : Timestamp}

/-- Four fields with the widths and alphabets that a line has. -/
structure Fields where
  hash : List Char
  date : List Char
  time : List Char
  offset : List Char
  length_hash : hash.length = hashLength
  hash_kind : ∀ c ∈ hash, isHexDigit c = true
  length_date : date.length = 10
  date_kind : ∀ c ∈ date, (isDigit c || c == '-') = true
  length_time : time.length = 8
  time_kind : ∀ c ∈ time, (isDigit c || c == ':') = true
  length_offset : offset.length = 5
  offset_kind : ∀ c ∈ offset, (isDigit c || c == '+' || c == '-') = true

/-- The fields with spaces between them. -/
def Fields.text (f : Fields) : List Char :=
  f.hash ++ ' ' :: (f.date ++ ' ' :: (f.time ++ ' ' :: f.offset))

/-- The number of characters that the fields take. -/
def fieldsLength : Nat := 66

theorem Fields.length_text (f : Fields) : f.text.length = fieldsLength := by
  simp only [text, List.length_append, List.length_cons, f.length_hash, f.length_date,
    f.length_time, f.length_offset]
  rfl

theorem field?_eq_some_iff :
    field? width kind s = some (field, r) ↔
      s = field ++ r ∧ field.length = width ∧ ∀ c ∈ field, kind c = true := by
  simp only [field?, Option.ite_none_right_eq_some, List.all_eq_true]
  constructor
  · rintro ⟨hfield, heq⟩
    obtain ⟨rfl, rfl⟩ := Prod.mk.inj (Option.some.inj heq)
    exact ⟨(List.take_append_drop width s).symm, hfield⟩
  · rintro ⟨rfl, hlen, hkind⟩
    rw [List.take_left' hlen, List.drop_left' hlen]
    exact ⟨⟨hlen, hkind⟩, rfl⟩

theorem timestamp?_eq_some_iff {date clock offset : List Char} :
    timestamp? date clock offset = some time ↔
      date? date = some time.date ∧ time? clock = some time.time ∧
        offset? offset = some time.offset := by
  obtain ⟨d, t, o, ho⟩ := time
  simp only [timestamp?, Option.bind_eq_bind, Option.bind_eq_some_iff, Timestamp.of?]
  constructor
  · rintro ⟨_, hd, _, ht, _, ho', heq⟩
    split at heq
    · cases heq
      exact ⟨hd, ht, ho'⟩
    · exact absurd heq (by simp)
  · rintro ⟨hd, ht, ho'⟩
    exact ⟨d, hd, t, ht, o, ho', dif_pos ho⟩

/-- **What a line consists of.** Only its first sixty-six characters count. -/
theorem parse?_eq_some_iff :
    parse? line = some (hash, time) ↔ ∃ f : Fields, line.take fieldsLength = f.text ∧
      f.hash.map CommitHash.lowerHexDigit = hash.digits ∧
      timestamp? f.date f.time f.offset = some time := by
  simp only [parse?, Option.bind_eq_bind, Option.bind_eq_some_iff, Prod.exists,
    field?_eq_some_iff, after?_eq_some_iff, Option.pure_def, Option.some.injEq, Prod.mk.injEq,
    CommitHash.ofDigits?_eq_some_iff]
  constructor
  · rintro ⟨h, _, ⟨rfl, hhlen, hhkind⟩, _, rfl, d, _, ⟨rfl, hdlen, hdkind⟩, _, rfl, t, _,
      ⟨rfl, htlen, htkind⟩, _, rfl, o, suffix, ⟨rfl, holen, hokind⟩, _, hdigits, _, htime, rfl, rfl⟩
    let f : Fields := ⟨h, d, t, o, hhlen, hhkind, hdlen, hdkind, htlen, htkind, holen, hokind⟩
    refine ⟨f, ?_, hdigits, htime⟩
    have hline : h ++ ([' '] ++ (d ++ ([' '] ++ (t ++ ([' '] ++ (o ++ suffix))))))
        = f.text ++ suffix := by
      simp [Fields.text, f]
    rw [hline, List.take_left' f.length_text]
  · rintro ⟨f, hline, hdigits, htime⟩
    have hsplit : line = f.hash ++ ([' '] ++ (f.date ++ ([' '] ++ (f.time ++ ([' '] ++
        (f.offset ++ line.drop fieldsLength)))))) :=
      calc line = f.text ++ line.drop fieldsLength := by
            rw [← hline, List.take_append_drop]
        _ = _ := by simp [Fields.text]
    exact ⟨f.hash, _, ⟨hsplit, f.length_hash, f.hash_kind⟩, _, rfl, f.date, _,
      ⟨rfl, f.length_date, f.date_kind⟩, _, rfl, f.time, _, ⟨rfl, f.length_time, f.time_kind⟩, _,
      rfl, f.offset, _, ⟨rfl, f.length_offset, f.offset_kind⟩, hash, hdigits, time, htime, rfl, rfl⟩

/-- Lines with the same first sixty-six characters are read alike. -/
theorem parse?_congr {line' : List Char} (h : line.take fieldsLength = line'.take fieldsLength) :
    parse? line = parse? line' := by
  apply Option.ext
  rintro ⟨hash, time⟩
  rw [parse?_eq_some_iff, parse?_eq_some_iff, h]

/-! ## Rendered lines -/

/-- The template that renders a line. -/
def template : String :=
  "\x7bcommit\x7d \x7bdate:ymd-\x7d \x7btime:hms:\x7d \x7btime:o\x7d"

/-- What the template renders after the hash. -/
def renderedTime (t : Timestamp) : List Char :=
  ' ' :: (t.date.write ['-'] ++ ' ' :: (t.time.write [':'] ++ ' ' :: writeOffset t.offset))

/-- The directives of the template and the spaces between them. -/
def templateParts : Template.Composition where
  pieces := [.directive (.fixed .commit), .plain [' '] (by decide),
    .directive (.fixed .dashedDate), .plain [' '] (by decide),
    .directive (.fixed .colonTime), .plain [' '] (by decide), .directive (.fixed .offset)]

theorem render_template (r : Revision) :
    (Template.render template r).toList = r.hash.digits ++ renderedTime r.time := by
  have htext : template.toList = templateParts.text := by decide
  have hmeaning : templateParts.meaning r = r.hash.digits ++ renderedTime r.time := by
    simp [Template.Composition.meaning, Template.Composition.ending, Template.Piece.meaning,
      WrittenDirective.meaning, ← FixedToken.expansion_eq_meaning, FixedToken.expansion,
      renderedTime, templateParts]
  rw [Template.render, String.toList_ofList, htext, templateParts.expand_text, hmeaning]

/-- The fields of a rendered line, with a hash in any case of the letters. -/
def fieldsOf (digits : List Char) (hash : CommitHash) (t : Timestamp)
    (hdigits : digits.map Char.toLower = hash.digits)
    (hyear : 0 ≤ t.date.year ∧ t.date.year ≤ 9999) : Fields where
  hash := digits
  date := t.date.write ['-']
  time := t.time.write [':']
  offset := writeOffset t.offset
  length_hash := by rw [← hash.length_digits, ← hdigits, List.length_map]
  hash_kind c hc := CommitHash.isHexDigit_of_toLower
    (hash.digits_hex _ (hdigits ▸ List.mem_map_of_mem hc))
  length_date := length_date_write hyear
  date_kind _ := dateChar_of_mem_write hyear
  length_time := length_time_write t.time
  time_kind _ := timeChar_of_mem_write t.time
  length_offset := length_writeOffset t.offset_lt
  offset_kind _ := offsetChar_of_mem_write

/-- A rendered line is read as what it was rendered for, whatever follows it. -/
theorem parse?_renderedTime {digits : List Char} {r : Revision}
    (hdigits : digits.map Char.toLower = r.hash.digits)
    (hyear : 0 ≤ r.time.date.year ∧ r.time.date.year ≤ 9999)
    (hwhole : r.time.time.nanosecond = 0) (hoffset : 60 ∣ r.time.offset) (suffix : List Char) :
    parse? (digits ++ renderedTime r.time ++ suffix) = some (r.hash, r.time) := by
  let f := fieldsOf digits r.hash r.time hdigits hyear
  have htext : digits ++ renderedTime r.time = f.text := rfl
  rw [parse?_eq_some_iff, htext]
  refine ⟨f, List.take_left' f.length_text, ?_, ?_⟩
  · rw [← hdigits]
    exact List.map_congr_left fun c hc => CommitHash.lowerHexDigit_eq_toLower (f.hash_kind c hc)
  · exact timestamp?_eq_some_iff.2 ⟨date?_write hyear, time?_write hwhole,
      offset?_writeOffset hoffset r.time.offset_lt⟩

/-- A line that is read is rendered again, with its hash in lower case and one sign of zero. -/
theorem render_of_parse? {r : Revision} (h : parse? line = some (r.hash, r.time))
    (hdate : (line.drop (hashLength + 1)).head? ≠ some '-') :
    (Template.render template r).toList = (line.take hashLength).map Char.toLower ++
      ((line.drop hashLength).take 21 ++ normalOffset ((line.drop 61).take 5)) := by
  obtain ⟨f, hline, hdigits, htime⟩ := parse?_eq_some_iff.1 h
  obtain ⟨hd, ht, ho⟩ := timestamp?_eq_some_iff.1 htime
  -- the line in three parts: the hash, the middle that is copied, and the offset
  let middle := ' ' :: (f.date ++ ' ' :: (f.time ++ [' ']))
  have hmiddle : middle.length = 21 := by
    simp only [middle, List.length_cons, List.length_append, f.length_date, f.length_time,
      List.length_nil]
  obtain ⟨suffix, rfl⟩ : ∃ suffix, line = f.hash ++ (middle ++ (f.offset ++ suffix)) := by
    refine ⟨line.drop fieldsLength, ?_⟩
    calc line = f.text ++ line.drop fieldsLength := by rw [← hline, List.take_append_drop]
      _ = _ := by simp [Fields.text, middle]
  have hhead : f.date.head? ≠ some '-' := by
    intro hhead
    apply hdate
    rw [← List.drop_drop, List.drop_left' f.length_hash]
    cases hd : f.date with
    | nil => simp [hd] at hhead
    | cons c rest => simpa [middle, hd] using hhead
  have hhash : (f.hash.map Char.toLower) = r.hash.digits := by
    rw [← hdigits]
    exact List.map_congr_left fun c hc =>
      (CommitHash.lowerHexDigit_eq_toLower (f.hash_kind c hc)).symm
  have hdrop : (f.hash ++ (middle ++ (f.offset ++ suffix))).drop 61 = f.offset ++ suffix := by
    rw [show 61 = hashLength + 21 from rfl, ← List.drop_drop, List.drop_left' f.length_hash,
      List.drop_left' hmiddle]
  rw [render_template, renderedTime, (write_of_date? hd f.length_date hhead).2,
    write_of_time? ht f.length_time, writeOffset_of_offset? ho, List.take_left' f.length_hash,
    hhash, List.drop_left' f.length_hash, List.take_left' hmiddle, hdrop,
    List.take_left' f.length_offset]
  simp [middle]

/-- **Reading and rendering a line are inverse to each other.** A line that was rendered for a whole
second is read as what it was rendered for, whatever follows it, and also if letters of its hash are
in upper case. A line that is read is rendered again, if its date does not start with a minus sign:
its hash comes in lower case, and zero has one sign. And only the first sixty-six characters of a
line count. -/
theorem parse?_render_inverse :
    (∀ (r : Revision) (suffix : List Char), 0 ≤ r.time.date.year → r.time.date.year ≤ 9999 →
        r.time.time.nanosecond = 0 → 60 ∣ r.time.offset →
      parse? ((Template.render template r).toList ++ suffix) = some (r.hash, r.time) ∧
      parse? (r.hash.digits.map Char.toUpper ++
          (Template.render template r).toList.drop hashLength ++ suffix)
        = some (r.hash, r.time) ∧
      ∀ digits, digits.map Char.toLower = r.hash.digits →
        parse? (digits ++ (Template.render template r).toList.drop hashLength ++ suffix)
          = some (r.hash, r.time)) ∧
    (∀ (line : List Char) (r : Revision), parse? line = some (r.hash, r.time) →
        (line.drop (hashLength + 1)).head? ≠ some '-' →
      (Template.render template r).toList = (line.take hashLength).map Char.toLower ++
        ((line.drop hashLength).take 21 ++ normalOffset ((line.drop 61).take 5))) ∧
    ∀ line line' : List Char, line.take fieldsLength = line'.take fieldsLength →
      parse? line = parse? line' := by
  refine ⟨fun r suffix hyear hyear' hwhole hoffset => ?_,
    fun line r h hdate => render_of_parse? h hdate, fun line line' h => parse?_congr h⟩
  have hread : ∀ digits, digits.map Char.toLower = r.hash.digits →
      parse? (digits ++ renderedTime r.time ++ suffix) = some (r.hash, r.time) :=
    fun digits hdigits => parse?_renderedTime hdigits ⟨hyear, hyear'⟩ hwhole hoffset suffix
  rw [render_template, List.drop_left' r.hash.length_digits]
  exact ⟨hread _ r.hash.map_toLower, hread _ r.hash.map_toLower_map_toUpper, hread⟩

/-- A line of a leap second, with what a rendering does not have. -/
def leapLine : List Char :=
  List.replicate 40 'A' ++ " 2016-12-31 23:59:60 -0000 ...".toList

theorem isSome_leapLine : (parse? leapLine).isSome = true := by
  decide +kernel

/-- The revision that it tells. -/
def leapRevision : Revision :=
  let told := (parse? leapLine).get isSome_leapLine
  ⟨told.1, told.2, false⟩

theorem parse?_leapLine : parse? leapLine = some (leapRevision.hash, leapRevision.time) :=
  (Option.some_get isSome_leapLine).symm

theorem parse?_render_inverse_leapLine :
    (Template.render template leapRevision).toList
        = List.replicate 40 'a' ++ " 2016-12-31 23:59:60 +0000".toList ∧
      parse? ((Template.render template leapRevision).toList ++ " ...".toList)
        = some (leapRevision.hash, leapRevision.time) := by
  have hrender := parse?_render_inverse.2.1 leapLine leapRevision parse?_leapLine
    (by decide +kernel)
  have hnormal : (leapLine.take hashLength).map Char.toLower
        ++ ((leapLine.drop hashLength).take 21 ++ normalOffset ((leapLine.drop 61).take 5))
      = List.replicate 40 'a' ++ " 2016-12-31 23:59:60 +0000".toList := by
    decide +kernel
  have hread := parse?_render_inverse.1 leapRevision " ...".toList (by decide +kernel)
    (by decide +kernel) (by decide +kernel) (by decide +kernel)
  exact ⟨hrender.trans hnormal, hread.1⟩

end LogLine

end CommitStamp
