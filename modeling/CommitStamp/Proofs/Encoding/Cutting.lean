import CommitStamp.Proofs.Encoding.Reading
/-!
# Cutting bytes before they are read

A byte below 0x80 continues no sequence, so it ends whatever was begun before it: the bytes up to it
are read as if they stood alone, and the reading starts anew behind it, defects or not
(`Utf8.items_append_cons`). So it makes no difference whether a text is cut at its newlines before
it is read or after that (`Encoding.decode_append_cons`).
-/

namespace CommitStamp

open Text

/-! ## UTF-8 -/

namespace Utf8

variable {low high width : Nat} {a b : UInt8}

theorem length_continuation_le (s : Bytes) : (continuation low high width s).length ≤ s.length := by
  induction s generalizing low high width with
  | nil => cases width <;> simp [continuation]
  | cons a s ih =>
    cases width with
    | zero => simp [continuation]
    | succ width =>
      rw [continuation]
      split
      · exact Nat.succ_le_succ ih
      · exact Nat.zero_le _

/-- An item takes no more bytes than there are. -/
theorem item_snd_le (a : UInt8) (s : Bytes) : (item a s).2 ≤ s.length := by
  rw [item]
  cases lead? a with
  | none => exact Nat.zero_le _
  | some lead =>
    dsimp only
    split
    · exact length_continuation_le s
    · exact length_continuation_le s

/-- A continuation ends before a byte below 0x80. -/
theorem continuation_append_cons (hlow : 0x80 ≤ low) (hb : b.toNat < 0x80) (s t : Bytes) :
    continuation low high width (s ++ b :: t) = continuation low high width s := by
  induction s generalizing low high width with
  | nil =>
    cases width with
    | zero => rw [continuation_zero, continuation_zero]
    | succ width =>
      have hstop : continuation low high (width + 1) (b :: t) = [] := by
        rw [continuation, if_neg (by omega)]
      rw [List.nil_append, hstop]
      rfl
  | cons a s ih =>
    cases width with
    | zero => rw [continuation_zero, continuation_zero]
    | succ width => rw [List.cons_append, continuation, continuation, ih (Nat.le_refl _)]

/-- The bounds of a second byte leave out the bytes below 0x80. -/
theorem le_low_of_lead? {lead : Lead} (h : lead? a = some lead) : 0x80 ≤ lead.low := by
  rcases lead?_cases h with ⟨-, rfl⟩ | ⟨-, -, rfl⟩ | ⟨low, high, rfl, -, -, hlow, -⟩ |
    ⟨low, high, rfl, -, -, hlow, -⟩
  · exact Nat.le_refl _
  · exact Nat.le_refl _
  · exact hlow
  · exact hlow

/-- So does an item. -/
theorem item_append_cons (a : UInt8) (hb : b.toNat < 0x80) (s t : Bytes) :
    item a (s ++ b :: t) = item a s := by
  rw [item, item]
  cases hlead : lead? a with
  | none => rfl
  | some lead =>
    dsimp only
    rw [continuation_append_cons (le_low_of_lead? hlead) hb]

/-- **The reading starts anew behind a byte below 0x80,** which is read as itself. -/
theorem items_append_cons (hb : b.toNat < 0x80) (s t : Bytes) :
    items (s ++ b :: t) = items s ++ some (Char.ofNat b.toNat) :: items t := by
  fun_induction items s with
  | case1 => exact items_append_of_isSequence (.one hb) t
  | case2 a s ih =>
    rw [List.cons_append, items, item_append_cons a hb,
      List.drop_append_of_le_length (item_snd_le a s), ih]
    rfl

end Utf8

/-! ## Texts -/

namespace Encoding

theorem decode_utf8 (s : Bytes) :
    utf8.decode s = (Utf8.items s).map fun i => i.getD replacement := by
  rw [decode, body_of_mark_eq_nil rfl]
  rfl

/-- **A text is read in parts** before and behind a byte below 0x80. -/
theorem decode_append_cons {b : UInt8} (hb : b.toNat < 0x80) (s t : Bytes) :
    utf8.decode (s ++ b :: t) = utf8.decode s ++ Char.ofNat b.toNat :: utf8.decode t := by
  rw [decode_utf8, decode_utf8, decode_utf8, Utf8.items_append_cons hb, List.map_append,
    List.map_cons]
  rfl

end Encoding

end CommitStamp
