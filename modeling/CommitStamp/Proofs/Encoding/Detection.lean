import CommitStamp.Proofs.Encoding.Reading
/-!
# Which encoding a file says that it has

A file that starts with the mark of an encoding is detected to have it, unless what follows makes
the mark a longer one; a file without a mark is UTF-8 if that is how it can be read, unless it
starts like a mark. Both happen with a single first character (`Encoding.misleading?`): U+0000 turns
the mark of UTF-16 in little order into the one of UTF-32, and U+FEFF is what the mark of UTF-8
spells. `Encoding.detect_mark_append` says that these are the only ways to be mistaken.
-/

namespace CommitStamp

open Text

/-! ## Bytes that no text in UTF-8 has -/

namespace Utf8

theorem IsSequence.lt_of_mem {w : Bytes} (h : IsSequence w) : ∀ b ∈ w, b.toNat < 0xf5 := by
  have htail : ∀ b, IsTail b → b.toNat < 0xf5 := fun b hb => Nat.lt_of_le_of_lt hb.2 (by decide)
  cases h with
  | one ha =>
    have ha' := Nat.lt_trans ha (by decide : 0x80 < 0xf5)
    simpa using ha'
  | two ha hb =>
    have ha' := Nat.lt_trans ha.2 (by decide : 0xe0 < 0xf5)
    simpa using And.intro ha' (htail _ hb)
  | three ha hb _ _ hd =>
    have ha' := Nat.lt_trans ha.2 (by decide : 0xf0 < 0xf5)
    simpa using And.intro ha' ⟨htail _ hb, htail _ hd⟩
  | four ha hb _ _ hd he =>
    simpa using And.intro ha.2 ⟨htail _ hb, htail _ hd, htail _ he⟩

/-- The bytes of a text have small numbers, so they hold none of the marks of the wide encodings. -/
theorem lt_of_mem_of_wellFormed {s : Bytes} (h : Encoding.utf8.WellFormed s) :
    ∀ b ∈ s, b.toNat < 0xf5 := by
  intro b hb
  have hbytes : encodeItems encodeChar (items s) = s := encodeItems_items s h
  rw [← hbytes, encodeItems, List.mem_flatMap] at hb
  obtain ⟨c, -, hb⟩ := hb
  exact (isSequence_encodeChar c).1.lt_of_mem b hb

end Utf8

namespace Encoding

/-! ## Marks -/

/-- The first character that makes a file of this encoding be taken for one of another. -/
def misleading? : Encoding → Option Char
  | utf8 => some '\ufeff'
  | utf16 .little => some '\x00'
  | _ => none

theorem misleading?_ne_replacement (e : Encoding) : e.misleading? ≠ some replacement := by
  cases e with
  | utf8 => decide
  | markedUtf8 => decide
  | utf16 order => cases order <;> decide
  | utf32 order => cases order <;> decide
  | latin1 => decide

theorem detect_ne_of_misleading {e : Encoding} {c : Char} (h : e.misleading? = some c)
    (s : Bytes) : detect (e.mark ++ (e.encodeChar c ++ s)) ≠ e := by
  cases e with
  | utf8 =>
    obtain rfl := Option.some.inj h
    show detect (markedUtf8.mark ++ s) ≠ utf8
    rintro ⟨⟩
  | utf16 order =>
    cases order with
    | little =>
      obtain rfl := Option.some.inj h
      show detect ((utf32 .little).mark ++ s) ≠ utf16 .little
      rintro ⟨⟩
    | big => exact absurd h (by simp [misleading?])
  | markedUtf8 => exact absurd h (by simp [misleading?])
  | utf32 order => exact absurd h (by simp [misleading?])
  | latin1 => exact absurd h (by simp [misleading?])

/-- Without a mark a text in UTF-8 is taken for that. -/
theorem detect_of_not_marked {s : Bytes} (hwf : utf8.WellFormed s)
    (hmark : ¬markedUtf8.mark <+: s) : detect s = utf8 := by
  have hnone : (marked.find? fun e => (after? e.mark s).isSome) = none := by
    rw [List.find?_eq_none]
    intro e he
    rw [Option.not_isSome_iff_eq_none, after?_eq_none_iff]
    by_cases hutf8 : e = markedUtf8
    · rwa [hutf8]
    · -- all other marks have the byte 0xfe
      have hbyte : ∀ e ∈ marked, e ≠ markedUtf8 → 0xfe ∈ e.mark := by decide
      intro hstart
      have hlt := Utf8.lt_of_mem_of_wellFormed hwf 0xfe (hstart.subset (hbyte e he hutf8))
      exact absurd hlt (by decide)
  rw [detect, hnone]
  exact if_pos hwf

theorem detect_utf16_little {s : Bytes} (h : ¬[0, 0] <+: s) :
    detect ((utf16 .little).mark ++ s) = utf16 .little := by
  have hlonger : after? (utf32 .little).mark ((utf16 .little).mark ++ s) = none := by
    rw [after?_eq_none_iff]
    rwa [show (utf32 .little).mark = (utf16 .little).mark ++ [0, 0] from rfl,
      List.prefix_append_right_inj]
  simp only [detect, marked, List.find?_cons, hlonger]
  rfl

/-- **A file is detected to have the encoding whose mark it starts with,** unless it goes on with
the one character that misleads. -/
theorem detect_mark_append {e : Encoding} {s : Bytes} (he : e ≠ latin1)
    (hwf : e = utf8 → utf8.WellFormed s) :
    detect (e.mark ++ s) = e ↔ ∀ c ∈ e.misleading?, ¬e.encodeChar c <+: s := by
  constructor
  · rintro h c hc ⟨t, rfl⟩
    exact detect_ne_of_misleading hc t h
  · intro h
    cases e with
    | utf8 => exact detect_of_not_marked (hwf rfl) (h '\ufeff' rfl)
    | utf16 order =>
      cases order with
      | little => exact detect_utf16_little (h '\x00' rfl)
      | big => rfl
    | markedUtf8 => rfl
    | utf32 order => cases order <;> rfl
    | latin1 => exact absurd rfl he

/-! ## Texts -/

/-- What is written for a text has no defect. -/
theorem wellFormed_flatMap_encodeChar {e : Encoding} {text : List Char} (h : e.Covers text) :
    e.WellFormed (text.flatMap e.encodeChar) := by
  intro i hi
  rw [items_flatMap_encodeChar h, List.mem_map] at hi
  obtain ⟨c, -, rfl⟩ := hi
  rfl

/-- The encoding of a written text is detected, unless its first character misleads. -/
theorem detect_encode_iff {e : Encoding} (he : e ≠ latin1) (text : List Char) :
    detect (e.encode text) = e ↔ ∀ c ∈ e.misleading?, text.head? ≠ some c := by
  have hcovers : e.Covers text := fun h => absurd h he
  have hwf : e = utf8 → utf8.WellFormed (text.flatMap e.encodeChar) := by
    rintro rfl
    exact wellFormed_flatMap_encodeChar hcovers
  rw [encode, detect_mark_append he hwf]
  refine forall₂_congr fun c _ => not_congr ?_
  rw [← head?_items_eq_some_iff he, items_flatMap_encodeChar hcovers, List.head?_map,
    Option.map_eq_some_iff]
  simp only [Option.some.injEq, exists_eq_right]

/-- A mark is recognised before any text that does not start with a NUL. -/
theorem detect_encode_of_mark {e : Encoding} {text : List Char} (he : e.mark ≠ [])
    (htext : text.head? ≠ some '\x00') : detect (e.encode text) = e := by
  have hlatin1 : e ≠ latin1 := by
    rintro rfl
    exact he rfl
  rw [detect_encode_iff hlatin1]
  intro c hc
  cases e with
  | utf8 => exact absurd rfl he
  | utf16 order =>
    cases order with
    | little =>
      obtain rfl := Option.some.inj hc
      exact htext
    | big => exact absurd hc (by simp [misleading?])
  | markedUtf8 => exact absurd hc (by simp [misleading?])
  | utf32 order => exact absurd hc (by simp [misleading?])
  | latin1 => exact absurd rfl he

/-- The text of a file does not start with the character that misleads about its encoding. -/
theorem head?_decode_ne {b : Bytes} (he : detect b ≠ latin1) :
    ∀ c ∈ (detect b).misleading?, ((detect b).decode b).head? ≠ some c := by
  intro c hc hhead
  rw [decode, List.head?_map, Option.map_eq_some_iff] at hhead
  obtain ⟨i, hi, hic⟩ := hhead
  -- a defect is read as the replacement, which misleads nobody
  have hsome : i = some c := by
    cases i with
    | none => exact absurd (hic ▸ hc) (misleading?_ne_replacement _)
    | some d => rw [show d = c from hic]
  rw [hsome, head?_items_eq_some_iff he] at hi
  obtain ⟨t, ht⟩ := hi
  refine detect_ne_of_misleading hc t ?_
  rw [ht, mark_append_body_detect]

/-- **Decoding undoes encoding, and the encoding is found out.** One byte per character is too
little for a character beyond the first 256; nothing else is lost. A mark is recognised except for
that of UTF-16 in little order before U+0000, and UTF-8 without a mark except before U+FEFF. -/
theorem decode_encode_and_detect (e : Encoding) (text : List Char) :
    (e.decode (e.encode text) = text ↔ (e = latin1 → ∀ c ∈ text, c.toNat ≤ 0xff)) ∧
      (e.mark ≠ [] → (detect (e.encode text) = e ↔
        ¬(e = utf16 .little ∧ text.head? = some '\x00'))) ∧
      (detect (utf8.encode text) = utf8 ↔ text.head? ≠ some '\ufeff') := by
  refine ⟨?_, fun hmark => ?_, ?_⟩
  · rw [decode_encode_iff, Covers]
    simp only [Nat.lt_succ_iff]
  · have he : e ≠ latin1 := by
      rintro rfl
      exact hmark rfl
    rw [detect_encode_iff he]
    cases e with
    | utf16 order => cases order <;> simp [misleading?]
    | utf8 => exact absurd rfl hmark
    | markedUtf8 => simp [misleading?]
    | utf32 order => simp [misleading?]
    | latin1 => exact absurd rfl he
  · rw [detect_encode_iff (by decide)]
    simp [misleading?]

/-- A text with U+FEFF before U+0000 is found to be UTF-16. -/
theorem decode_encode_and_detect_utf16 :
    (utf16 .little).decode ((utf16 .little).encode ['\ufeff', '\x00', Char.ofNat 0x1f600])
        = ['\ufeff', '\x00', Char.ofNat 0x1f600] ∧
      detect ((utf16 .little).encode ['\ufeff', '\x00', Char.ofNat 0x1f600]) = utf16 .little := by
  obtain ⟨hdecode, hmark, -⟩ :=
    decode_encode_and_detect (utf16 .little) ['\ufeff', '\x00', Char.ofNat 0x1f600]
  exact ⟨hdecode.2 (by rintro ⟨⟩), (hmark (by decide)).2 fun h => absurd h.2 (by decide)⟩

end Encoding

end CommitStamp
