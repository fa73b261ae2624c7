import CommitStamp.Proofs.Encoding.Detection
import Mathlib.Data.List.Chain
/-!
# Which files are written back as they were

`Encoding.WellFormed` asks the reader whether it met a defect. Here the same is said of the bytes
alone (`Encoding.Valid`): UTF-8 is one sequence after the other, UTF-16 is an even number of bytes
in which every half of a pair has its other half, and UTF-32 is a number of bytes that four divides,
with a code point that is no surrogate in each four. `Encoding.wellFormed_iff_valid` says that the
reader meets a defect in all other bytes and in no others. A file with a defect is never written
back as it was: what is written has none.
-/

namespace CommitStamp

open Text

/-! ## UTF-8 -/

namespace Utf8

/-- Bytes that are one sequence after the other. -/
inductive Valid : Bytes → Prop
  | nil : Valid []
  | append {w s : Bytes} (sequence : IsSequence w) (rest : Valid s) : Valid (w ++ s)

theorem wellFormed_of_valid {s : Bytes} (h : Valid s) : ∀ i ∈ items s, i.isSome = true := by
  induction h with
  | nil => simp [items]
  | append hw _ ih =>
    rw [items_append_of_isSequence hw]
    exact List.forall_mem_cons.2 ⟨rfl, ih⟩

theorem valid_of_wellFormed {s : Bytes} (h : ∀ i ∈ items s, i.isSome = true) : Valid s := by
  fun_induction items s with
  | case1 => exact .nil
  | case2 b s ih =>
    obtain ⟨hfirst, hrest⟩ := List.forall_mem_cons.1 h
    obtain ⟨c, hc⟩ := Option.isSome_iff_exists.1 hfirst
    -- the first item takes the bytes that its character is written with
    have hbytes : encodeChar c = b :: s.take (item b s).2 := encodeChar_of_item (Prod.ext hc rfl)
    have hsequence : IsSequence (b :: s.take (item b s).2) := hbytes ▸ (isSequence_encodeChar c).1
    have hvalid := Valid.append hsequence (ih hrest)
    rwa [List.cons_append, List.take_append_drop] at hvalid

end Utf8

/-! ## UTF-16 -/

namespace Utf16

/-- A unit is the first half of a pair if and only if the unit after it is a second half. This is
asked with a unit that is no half before the first and after the last. -/
def Paired (us : List Nat) : Prop :=
  (0 :: (us ++ [0])).IsChain fun u v => isHigh u = isLow v

theorem isLow_eq_false_of_isHigh {u : Nat} (h : isHigh u = true) : isLow u = false := by
  simp only [isHigh, isLow, Bool.and_eq_true, Bool.and_eq_false_iff, decide_eq_true_eq,
    decide_eq_false_iff_not] at h ⊢
  omega

theorem isHigh_eq_false_of_isLow {u : Nat} (h : isLow u = true) : isHigh u = false := by
  cases hu : isHigh u with
  | false => rfl
  | true => exact absurd h (by simp [isLow_eq_false_of_isHigh hu])

/-- Units are read without a defect if and only if no surrogate is unpaired, whatever unit stands
before them that is no first half. -/
theorem wellFormed_iff_isChain {us : List Nat} {w : Nat} (hw : isHigh w = false) :
    (∀ i ∈ itemsOfUnits us, i.isSome = true) ↔
      (w :: (us ++ [0])).IsChain fun u v => isHigh u = isLow v := by
  have hzero : isLow 0 = false := by decide
  fun_induction itemsOfUnits us generalizing w with
  | case1 => simp [hw, hzero]
  | case2 u =>
    simp only [List.forall_mem_singleton, List.cons_append, List.nil_append,
      List.isChain_cons_cons, List.isChain_singleton, and_true, hw, hzero]
    cases isHigh u <;> cases isLow u <;> simp
  | case3 u v us hpair ih =>
    obtain ⟨hh, hl⟩ := Bool.and_eq_true_iff.1 hpair
    -- the pair is in order, and what follows stands after its second half
    have hrest : (∀ i ∈ itemsOfUnits us, i.isSome = true) ↔
        (v :: (us ++ [0])).IsChain fun u v => isHigh u = isLow v :=
      ih (isHigh_eq_false_of_isLow hl)
    rw [List.forall_mem_cons, hrest]
    simp [hw, hh, hl, isLow_eq_false_of_isHigh hh]
  | case4 u v us hpair ih =>
    rw [List.cons_append, List.isChain_cons_cons, List.forall_mem_cons, hw]
    cases hh : isHigh u with
    | false =>
      have hrest : (∀ i ∈ itemsOfUnits (v :: us), i.isSome = true) ↔
          (u :: (v :: us ++ [0])).IsChain fun u v => isHigh u = isLow v := ih hh
      rw [hrest]
      cases hl : isLow u <;> simp
    | true =>
      -- a first half before a unit that is no second half
      have hl : isLow v = false := by simpa [hh] using hpair
      simp [hh, hl]

/-- The number of bytes is even, and no surrogate among the units is unpaired. -/
theorem wellFormed_iff {order : ByteOrder} {s : Bytes} :
    (∀ i ∈ items order s, i.isSome = true) ↔ s.length % 2 = 0 ∧ Paired (unitsOf order s) := by
  rw [items, List.forall_mem_append, wellFormed_iff_isChain (w := 0) (by decide), Paired, and_comm]
  refine and_congr_left fun _ => ?_
  split
  · next h => simp [h]
  · next h => simp [h]

end Utf16

/-! ## UTF-32 -/

namespace Utf32

/-- The numbers of a sequence of bytes; up to three bytes at the end make no number and are left
out. -/
def unitsOf (order : ByteOrder) : Bytes → List Nat
  | a :: b :: c :: d :: s => unit order a b c d :: unitsOf order s
  | _ => []

/-- The number of bytes is divided by four, and every number is one of a character. -/
theorem wellFormed_iff {order : ByteOrder} {s : Bytes} :
    (∀ i ∈ items order s, i.isSome = true) ↔
      s.length % 4 = 0 ∧ ∀ n ∈ unitsOf order s, n.isValidChar := by
  fun_induction items order s with
  | case1 => simp [unitsOf]
  | case2 a b d e s ih =>
    have hchar : ∀ n, (char? n).isSome = true ↔ n.isValidChar := by
      intro n
      rw [char?]
      split <;> simp_all
    rw [unitsOf, List.forall_mem_cons, List.forall_mem_cons, hchar, ih]
    simp only [List.length_cons]
    constructor
    · rintro ⟨hunit, hlength, hunits⟩
      exact ⟨by omega, hunit, hunits⟩
    · rintro ⟨hlength, hunit, hunits⟩
      exact ⟨hunit, by omega, hunits⟩
  | case3 s hnil hfour =>
    -- one, two or three bytes are left
    rcases s with _ | ⟨a, _ | ⟨b, _ | ⟨d, _ | ⟨e, s⟩⟩⟩⟩
    · exact absurd rfl hnil
    · simp
    · simp
    · simp
    · exact absurd rfl (hfour a b d e s)

end Utf32

/-! ## Files -/

namespace Encoding

/-- What the bytes after the mark have to be like. -/
def Valid : Encoding → Bytes → Prop
  | utf8, s | markedUtf8, s => Utf8.Valid s
  | utf16 order, s => s.length % 2 = 0 ∧ Utf16.Paired (Utf16.unitsOf order s)
  | utf32 order, s => s.length % 4 = 0 ∧ ∀ n ∈ Utf32.unitsOf order s, n.isValidChar
  | latin1, _ => True

/-- **The reader meets a defect in no other bytes.** -/
theorem wellFormed_iff_valid {e : Encoding} {s : Bytes} : e.WellFormed s ↔ e.Valid s := by
  cases e with
  | utf8 => exact ⟨Utf8.valid_of_wellFormed, Utf8.wellFormed_of_valid⟩
  | markedUtf8 => exact ⟨Utf8.valid_of_wellFormed, Utf8.wellFormed_of_valid⟩
  | utf16 order => exact Utf16.wellFormed_iff
  | utf32 order => exact Utf32.wellFormed_iff
  | latin1 => exact iff_of_true (wellFormed_latin1 s) trivial

/-- A file that is written back as it was has no defect. -/
theorem wellFormed_of_encode_decode {b : Bytes}
    (h : (detect b).encode ((detect b).decode b) = b) :
    (detect b).WellFormed ((detect b).body b) := by
  by_cases he : detect b = latin1
  · rw [he]
    exact wellFormed_latin1 _
  · have hwhole : (detect b).mark ++ ((detect b).decode b).flatMap (detect b).encodeChar
        = (detect b).mark ++ (detect b).body b := by
      rw [mark_append_body_detect]
      exact h
    have hbody : ((detect b).decode b).flatMap (detect b).encodeChar = (detect b).body b :=
      List.append_cancel_left hwhole
    rw [← hbody]
    exact wellFormed_flatMap_encodeChar fun h => absurd h he

/-- **A file is written back as it was if and only if its body is valid.** Without a mark it always
is. -/
theorem encode_decode_eq_self_iff (b : Bytes) :
    ((detect b).encode ((detect b).decode b) = b ↔ (detect b).Valid ((detect b).body b)) ∧
      (detect b = utf8 ∨ detect b = latin1 → (detect b).encode ((detect b).decode b) = b) ∧
      (detect b).mark ++ (detect b).body b = b := by
  refine ⟨?_, ?_, mark_append_body_detect b⟩
  · rw [← wellFormed_iff_valid]
    exact ⟨wellFormed_of_encode_decode, encode_decode⟩
  · intro h
    have hmark : (detect b).mark = [] := by
      rcases h with h | h <;> rw [h] <;> rfl
    exact encode_decode (wellFormed_detect hmark)

/-- The first half of a pair, with the mark of UTF-16 before it. -/
def unpairedFile : Bytes :=
  [0xff, 0xfe, 0x00, 0xd8]

/-- It is written back with U+FFFD instead. -/
theorem encode_decode_eq_self_iff_unpairedFile :
    (detect unpairedFile).encode ((detect unpairedFile).decode unpairedFile) ≠ unpairedFile ∧
      ¬(detect unpairedFile).Valid ((detect unpairedFile).body unpairedFile) := by
  have hne : (detect unpairedFile).encode ((detect unpairedFile).decode unpairedFile)
      ≠ unpairedFile := by decide +kernel
  exact ⟨hne, fun hvalid => hne ((encode_decode_eq_self_iff unpairedFile).1.2 hvalid)⟩

end Encoding

end CommitStamp
