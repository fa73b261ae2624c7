import CommitStamp.Proofs.Encoding.RoundTrip
/-!
# Reading what was written

A text that was written is read back, whatever comes after it: the bytes of one character are read
as that character, and the reading goes on behind them (`items_encodeChar_append`). For UTF-8 this
goes through the form of a sequence, `Utf8.IsSequence`, which says byte by byte what may stand in
it; `Utf8.codePoint` is the number that its bytes carry.

`decode_encode_iff` puts this together with the mark. Only the encoding with one byte per character
can lose something, and it loses exactly the characters beyond the first 256.
-/

namespace CommitStamp

open Text

/-- Every number below 256 is the number of a byte. -/
theorem exists_toNat_eq {n : Nat} (h : n < 256) : ∃ b : UInt8, b.toNat = n :=
  ⟨.ofNat n, UInt8.toNat_ofNat_of_lt' h⟩

/-- The numbers of characters. -/
theorem isValidChar_toNat (c : Char) : c.toNat.isValidChar :=
  c.valid

/-! ## UTF-8 -/

namespace Utf8

/-- A byte that continues a sequence. -/
def IsTail (b : UInt8) : Prop :=
  0x80 ≤ b.toNat ∧ b.toNat ≤ 0xbf

/-- The bytes of one character. The second byte is bounded after four of the first bytes: no form is
longer than it has to be, no number is a surrogate, and none is beyond the last character. -/
inductive IsSequence : Bytes → Prop
  | one {a : UInt8} (lead : a.toNat < 0x80) : IsSequence [a]
  | two {a b : UInt8} (lead : 0xc2 ≤ a.toNat ∧ a.toNat < 0xe0) (tail : IsTail b) :
      IsSequence [a, b]
  | three {a b d : UInt8} (lead : 0xe0 ≤ a.toNat ∧ a.toNat < 0xf0) (tail : IsTail b)
      (not_long : a.toNat = 0xe0 → 0xa0 ≤ b.toNat)
      (not_surrogate : a.toNat = 0xed → b.toNat ≤ 0x9f) (tail' : IsTail d) :
      IsSequence [a, b, d]
  | four {a b d e : UInt8} (lead : 0xf0 ≤ a.toNat ∧ a.toNat < 0xf5) (tail : IsTail b)
      (not_long : a.toNat = 0xf0 → 0x90 ≤ b.toNat)
      (not_beyond : a.toNat = 0xf4 → b.toNat ≤ 0x8f) (tail' : IsTail d) (tail'' : IsTail e) :
      IsSequence [a, b, d, e]

/-- The number that a sequence carries. -/
def codePoint : Bytes → Nat
  | [a] => a.toNat
  | [a, b] => (a.toNat - 0xc0) * 64 + (b.toNat - 0x80)
  | [a, b, d] => ((a.toNat - 0xe0) * 64 + (b.toNat - 0x80)) * 64 + (d.toNat - 0x80)
  | [a, b, d, e] =>
    (((a.toNat - 0xf0) * 64 + (b.toNat - 0x80)) * 64 + (d.toNat - 0x80)) * 64 + (e.toNat - 0x80)
  | _ => 0

/-- A character is written as a sequence that carries its number. -/
theorem isSequence_encodeChar (c : Char) :
    IsSequence (encodeChar c) ∧ codePoint (encodeChar c) = c.toNat := by
  have hvalid := isValidChar_toNat c
  rw [Nat.isValidChar] at hvalid
  -- the last three bytes, as far as they are there
  obtain ⟨b, hb⟩ := exists_toNat_eq (n := 0x80 + c.toNat % 64) (by omega)
  obtain ⟨b', hb'⟩ := exists_toNat_eq (n := 0x80 + c.toNat / 64 % 64) (by omega)
  obtain ⟨b'', hb''⟩ := exists_toNat_eq (n := 0x80 + c.toNat / 4096 % 64) (by omega)
  have htail : IsTail b := ⟨by omega, by omega⟩
  have htail' : IsTail b' := ⟨by omega, by omega⟩
  have htail'' : IsTail b'' := ⟨by omega, by omega⟩
  by_cases h₁ : c.toNat < 0x80
  · obtain ⟨a, ha⟩ := exists_toNat_eq (n := c.toNat) (by omega)
    rw [encodeChar_one ha.symm (by omega)]
    exact ⟨.one (by omega), ha⟩
  by_cases h₂ : c.toNat < 0x800
  · obtain ⟨a, ha⟩ := exists_toNat_eq (n := 0xc0 + c.toNat / 64) (by omega)
    have hlead : 0xc2 ≤ a.toNat ∧ a.toNat < 0xe0 := by omega
    have hnumber : c.toNat = (a.toNat - 0xc0) * 64 + (b.toNat - 0x80) := by omega
    rw [encodeChar_two hnumber hlead htail]
    exact ⟨.two hlead htail, hnumber.symm⟩
  by_cases h₃ : c.toNat < 0x10000
  · obtain ⟨a, ha⟩ := exists_toNat_eq (n := 0xe0 + c.toNat / 4096) (by omega)
    have hlead : 0xe0 ≤ a.toNat ∧ a.toNat < 0xf0 := by omega
    have hlong : a.toNat = 0xe0 → 0xa0 ≤ b'.toNat := by omega
    have hsurrogate : a.toNat = 0xed → b'.toNat ≤ 0x9f := by omega
    have hnumber : c.toNat
        = ((a.toNat - 0xe0) * 64 + (b'.toNat - 0x80)) * 64 + (b.toNat - 0x80) := by omega
    rw [encodeChar_three hnumber hlead htail' hlong htail]
    exact ⟨.three hlead htail' hlong hsurrogate htail, hnumber.symm⟩
  · obtain ⟨a, ha⟩ := exists_toNat_eq (n := 0xf0 + c.toNat / 262144) (by omega)
    have hlead : 0xf0 ≤ a.toNat ∧ a.toNat < 0xf5 := by omega
    have hlong : a.toNat = 0xf0 → 0x90 ≤ b''.toNat := by omega
    have hbeyond : a.toNat = 0xf4 → b''.toNat ≤ 0x8f := by omega
    have hnumber : c.toNat = (((a.toNat - 0xf0) * 64 + (b''.toNat - 0x80)) * 64
        + (b'.toNat - 0x80)) * 64 + (b.toNat - 0x80) := by omega
    rw [encodeChar_four hnumber hlead htail'' hlong htail' htail]
    exact ⟨.four hlead htail'' hlong hbeyond htail' htail, hnumber.symm⟩

theorem continuation_cons {low high width : Nat} {b : UInt8} (hlow : low ≤ b.toNat)
    (hhigh : b.toNat ≤ high) (s : Bytes) :
    continuation low high (width + 1) (b :: s) = b :: continuation 0x80 0xbf width s := by
  rw [continuation, if_pos ⟨hlow, hhigh⟩]

/-- An announced sequence whose continuation is complete. -/
theorem item_of_continuation {a : UInt8} {bits width low high : Nat} {t s : Bytes}
    (hlead : lead? a = some ⟨bits, width, low, high⟩)
    (htail : continuation low high width s = t) (hfull : t.length = width) :
    item a s = (some (Char.ofNat (t.foldl (fun n b => n * 64 + (b.toNat - 0x80)) bits)),
      t.length) := by
  simp only [item, hlead, htail, hfull, if_true]

/-- A sequence is read as the character with its number. -/
theorem item_of_isSequence {a : UInt8} {t : Bytes} (h : IsSequence (a :: t)) (s : Bytes) :
    item a (t ++ s) = (some (Char.ofNat (codePoint (a :: t))), t.length) := by
  cases h with
  | one ha =>
    have hlead : lead? a = some ⟨a.toNat, 0, 0x80, 0xbf⟩ := if_pos ha
    rw [item_of_continuation hlead continuation_zero rfl]
    rfl
  | @two _ b ha hb =>
    have hlead : lead? a = some ⟨a.toNat - 0xc0, 1, 0x80, 0xbf⟩ := by
      rw [lead?, if_neg (by omega), if_neg (by omega), if_pos ha.2]
    have htail : continuation 0x80 0xbf 1 ([b] ++ s) = [b] := by
      rw [List.singleton_append, continuation_cons hb.1 hb.2, continuation_zero]
    rw [item_of_continuation hlead htail rfl]
    rfl
  | @three _ b d ha hb hlong hsurrogate hd =>
    obtain ⟨low, high, hlead, hlow, hhigh⟩ : ∃ low high,
        lead? a = some ⟨a.toNat - 0xe0, 2, low, high⟩ ∧ low ≤ b.toNat ∧ b.toNat ≤ high := by
      rw [lead?, if_neg (by omega), if_neg (by omega), if_neg (by omega), if_pos ha.2]
      refine ⟨_, _, rfl, ?_, ?_⟩
      · split
        · next h => exact hlong h
        · exact hb.1
      · split
        · next h => exact hsurrogate h
        · exact hb.2
    have htail : continuation low high 2 ([b, d] ++ s) = [b, d] := by
      rw [List.cons_append, continuation_cons hlow hhigh, List.singleton_append,
        continuation_cons hd.1 hd.2, continuation_zero]
    rw [item_of_continuation hlead htail rfl]
    rfl
  | @four _ b d e ha hb hlong hbeyond hd he =>
    obtain ⟨low, high, hlead, hlow, hhigh⟩ : ∃ low high,
        lead? a = some ⟨a.toNat - 0xf0, 3, low, high⟩ ∧ low ≤ b.toNat ∧ b.toNat ≤ high := by
      rw [lead?, if_neg (by omega), if_neg (by omega), if_neg (by omega), if_neg (by omega),
        if_pos ha.2]
      refine ⟨_, _, rfl, ?_, ?_⟩
      · split
        · next h => exact hlong h
        · exact hb.1
      · split
        · next h => exact hbeyond h
        · exact hb.2
    have htail : continuation low high 3 ([b, d, e] ++ s) = [b, d, e] := by
      rw [List.cons_append, continuation_cons hlow hhigh, List.cons_append,
        continuation_cons hd.1 hd.2, List.singleton_append, continuation_cons he.1 he.2,
        continuation_zero]
    rw [item_of_continuation hlead htail rfl]
    rfl

/-- The reading goes on behind a sequence. -/
theorem items_append_of_isSequence {w : Bytes} (h : IsSequence w) (s : Bytes) :
    items (w ++ s) = some (Char.ofNat (codePoint w)) :: items s := by
  cases w with
  | nil => exact absurd h (by rintro ⟨⟩)
  | cons a t => rw [List.cons_append, items, item_of_isSequence h, List.drop_left]

theorem items_encodeChar_append (c : Char) (s : Bytes) :
    items (encodeChar c ++ s) = some c :: items s := by
  obtain ⟨hseq, hnumber⟩ := isSequence_encodeChar c
  rw [items_append_of_isSequence hseq, hnumber, Char.ofNat_toNat]

/-- A character that is read first has its bytes there. -/
theorem encodeChar_prefix_of_items {s : Bytes} {c : Char} {is : List (Option Char)}
    (h : items s = some c :: is) : encodeChar c <+: s := by
  cases s with
  | nil => exact absurd h (by simp [items])
  | cons b s =>
    rw [items] at h
    have hitem : item b s = (some c, (item b s).2) := Prod.ext (List.cons.inj h).1 rfl
    rw [encodeChar_of_item hitem, List.prefix_cons_inj]
    exact List.take_prefix _ s

end Utf8

/-! ## UTF-16 -/

namespace Utf16

theorem exists_unitBytes_eq (order : ByteOrder) {u : Nat} (hu : u < 0x10000) :
    ∃ a b, unitBytes order u = [a, b] ∧ unit order a b = u := by
  obtain ⟨low, hlow⟩ := exists_toNat_eq (n := u % 256) (by omega)
  obtain ⟨high, hhigh⟩ := exists_toNat_eq (n := u / 256) (by omega)
  -- two bytes are the bytes of the unit that they make
  obtain ⟨a, b, hunit⟩ : ∃ a b, unit order a b = u := by
    cases order with
    | little => exact ⟨low, high, by rw [unit]; omega⟩
    | big => exact ⟨high, low, by rw [unit]; omega⟩
  exact ⟨a, b, hunit ▸ unitBytes_unit order a b, hunit⟩

/-- The units that are written are read, up to the end of the bytes. -/
theorem unitsOf_append {order : ByteOrder} {us : List Nat} (hu : ∀ u ∈ us, u < 0x10000)
    (s : Bytes) : unitsOf order (us.flatMap (unitBytes order) ++ s) = us ++ unitsOf order s := by
  induction us with
  | nil => rfl
  | cons u us ih =>
    obtain ⟨a, b, hbytes, hunit⟩ := exists_unitBytes_eq order (hu u List.mem_cons_self)
    rw [List.flatMap_cons, hbytes, List.append_assoc]
    show unit order a b :: unitsOf order (us.flatMap (unitBytes order) ++ s) = _
    rw [hunit, ih fun v hv => hu v (List.mem_cons_of_mem u hv)]
    rfl

theorem length_unitBytes (order : ByteOrder) (u : Nat) : (unitBytes order u).length = 2 := by
  cases order <;> rfl

theorem length_flatMap_unitBytes (order : ByteOrder) (us : List Nat) :
    (us.flatMap (unitBytes order)).length = 2 * us.length := by
  induction us with
  | nil => rfl
  | cons u us ih =>
    rw [List.flatMap_cons, List.length_append, length_unitBytes, ih, List.length_cons]
    omega

theorem units_lt {c : Char} : ∀ u ∈ units c, u < 0x10000 := by
  have hvalid := isValidChar_toNat c
  rw [Nat.isValidChar] at hvalid
  intro u hu
  rw [units] at hu
  split at hu
  · next h => rwa [List.mem_singleton.1 hu]
  · rcases List.mem_cons.1 hu with rfl | hu
    · omega
    · rw [List.mem_singleton.1 hu]
      omega

/-- The units of a character are read as that character. -/
theorem itemsOfUnits_units_append (c : Char) (us : List Nat) :
    itemsOfUnits (units c ++ us) = some c :: itemsOfUnits us := by
  have hvalid := isValidChar_toNat c
  rw [Nat.isValidChar] at hvalid
  rw [units]
  split
  · next h =>
    -- the number of a character is no surrogate
    have hhigh : isHigh c.toNat = false := by
      simp only [isHigh, Bool.and_eq_false_iff, decide_eq_false_iff_not]
      omega
    have hlow : isLow c.toNat = false := by
      simp only [isLow, Bool.and_eq_false_iff, decide_eq_false_iff_not]
      omega
    cases us with
    | nil => simp [itemsOfUnits, hhigh, hlow]
    | cons v us => simp [itemsOfUnits, hhigh, hlow]
  · next h =>
    have hpair : (isHigh (0xd800 + (c.toNat - 0x10000) / 1024) &&
        isLow (0xdc00 + (c.toNat - 0x10000) % 1024)) = true := by
      simp only [isHigh, isLow, Bool.and_eq_true, decide_eq_true_eq]
      omega
    have hnumber : 0x10000 + (0xd800 + (c.toNat - 0x10000) / 1024 - 0xd800) * 1024 +
        (0xdc00 + (c.toNat - 0x10000) % 1024 - 0xdc00) = c.toNat := by omega
    show itemsOfUnits (_ :: _ :: us) = _
    rw [itemsOfUnits, if_pos hpair, hnumber, Char.ofNat_toNat]

theorem items_encodeChar_append (order : ByteOrder) (c : Char) (s : Bytes) :
    items order (encodeChar order c ++ s) = some c :: items order s := by
  have hparity : (encodeChar order c ++ s).length % 2 = s.length % 2 := by
    rw [List.length_append, encodeChar, length_flatMap_unitBytes]
    omega
  rw [items, hparity, encodeChar, unitsOf_append units_lt, itemsOfUnits_units_append]
  rfl

/-- A character that is read first has its units there. -/
theorem units_prefix_of_itemsOfUnits {us : List Nat} (hlt : ∀ u ∈ us, u < 0x10000) {c : Char}
    {is : List (Option Char)} (h : itemsOfUnits us = some c :: is) : units c <+: us := by
  fun_cases itemsOfUnits us with
  | case1 => exact absurd h (by simp [itemsOfUnits])
  | case2 u =>
    rw [itemsOfUnits] at h
    have hunits : units c = [u] := units_of_unpaired (hlt u List.mem_cons_self) (List.cons.inj h).1
    exact hunits ▸ List.prefix_rfl
  | case3 u v us hpair =>
    rw [itemsOfUnits, if_pos hpair] at h
    obtain ⟨hh, hl⟩ := Bool.and_eq_true_iff.1 hpair
    rw [← Option.some.inj (List.cons.inj h).1, units_pair hh hl]
    exact ⟨us, rfl⟩
  | case4 u v us hpair =>
    rw [itemsOfUnits, if_neg hpair] at h
    rw [units_of_unpaired (hlt u List.mem_cons_self) (List.cons.inj h).1]
    exact ⟨v :: us, rfl⟩

/-- The bytes of units that the bytes of a text start with. -/
theorem unitBytes_prefix_of_unitsOf {order : ByteOrder} {us : List Nat} {s : Bytes}
    (h : us <+: unitsOf order s) : us.flatMap (unitBytes order) <+: s := by
  fun_induction unitsOf order s generalizing us with
  | case1 a b s ih =>
    cases us with
    | nil => exact List.nil_prefix
    | cons u us =>
      obtain ⟨rfl, hrest⟩ := List.cons_prefix_cons.1 h
      rw [List.flatMap_cons, unitBytes_unit]
      exact (List.prefix_append_right_inj [a, b]).2 (ih hrest)
  | case2 s hs =>
    rw [List.prefix_nil.1 h]
    exact List.nil_prefix

/-- A character that is read first has its bytes there. -/
theorem encodeChar_prefix_of_items {order : ByteOrder} {s : Bytes} {c : Char}
    {is : List (Option Char)} (h : items order s = some c :: is) : encodeChar order c <+: s := by
  rw [items, List.append_eq_cons_iff] at h
  rcases h with ⟨-, h⟩ | ⟨js, h, -⟩
  · -- what is left over at the end is no character
    split at h <;> exact absurd h (by simp)
  · exact unitBytes_prefix_of_unitsOf (units_prefix_of_itemsOfUnits unitsOf_lt h)

end Utf16

/-! ## UTF-32 -/

namespace Utf32

theorem items_encodeChar_append (order : ByteOrder) (c : Char) (s : Bytes) :
    items order (encodeChar order c ++ s) = some c :: items order s := by
  have hvalid := isValidChar_toNat c
  have hlt : c.toNat < 0x110000 := by
    rw [Nat.isValidChar] at hvalid
    omega
  obtain ⟨b₀, h₀⟩ := exists_toNat_eq (n := c.toNat % 256) (by omega)
  obtain ⟨b₁, h₁⟩ := exists_toNat_eq (n := c.toNat / 256 % 256) (by omega)
  obtain ⟨b₂, h₂⟩ := exists_toNat_eq (n := c.toNat / 65536 % 256) (by omega)
  obtain ⟨b₃, h₃⟩ := exists_toNat_eq (n := c.toNat / 16777216) (by omega)
  -- four bytes are the bytes of the number that they make
  obtain ⟨a, b, d, e, hunit⟩ : ∃ a b d e, unit order a b d e = c.toNat := by
    cases order with
    | little => exact ⟨b₀, b₁, b₂, b₃, by rw [unit]; omega⟩
    | big => exact ⟨b₃, b₂, b₁, b₀, by rw [unit]; omega⟩
  rw [encodeChar_unit hunit.symm]
  show char? (unit order a b d e) :: items order s = _
  rw [hunit, char?, if_pos hvalid, Char.ofNat_toNat]

/-- A character that is read first has its bytes there. -/
theorem encodeChar_prefix_of_items {order : ByteOrder} {s : Bytes} {c : Char}
    {is : List (Option Char)} (h : items order s = some c :: is) : encodeChar order c <+: s := by
  fun_cases items order s with
  | case1 => exact absurd h (by simp [items])
  | case2 a b d e t =>
    rw [items, char?] at h
    have hc := (List.cons.inj h).1
    split at hc
    · next hvalid =>
      rw [← Option.some.inj hc, encodeChar_unit (toNat_ofNat_of_isValidChar hvalid)]
      exact ⟨t, rfl⟩
    · exact absurd hc (by simp)
  | case3 hnil hfour =>
    rw [items] at h <;> first | exact absurd h (by simp) | assumption

end Utf32

/-! ## Single bytes -/

namespace Latin1

theorem items_encodeChar_append {c : Char} (hc : c.toNat < 256) (s : Bytes) :
    items (encodeChar c ++ s) = some c :: items s := by
  obtain ⟨b, hb⟩ := exists_toNat_eq hc
  rw [encodeChar, if_pos hc, ofNat_eq_of_eq_toNat hb.symm, List.singleton_append, items,
    List.map_cons, hb, Char.ofNat_toNat]
  rfl

theorem items_encodeChar_append_of_le {c : Char} (hc : 256 ≤ c.toNat) (s : Bytes) :
    items (encodeChar c ++ s) = some '?' :: items s := by
  rw [encodeChar, if_neg (by omega)]
  rfl

end Latin1

/-! ## Files -/

namespace Encoding

/-- The encoding has bytes for all characters of a text. -/
def Covers (e : Encoding) (text : List Char) : Prop :=
  e = latin1 → ∀ c ∈ text, c.toNat < 256

theorem covers_cons {e : Encoding} {c : Char} {text : List Char} :
    e.Covers (c :: text) ↔ (e = latin1 → c.toNat < 256) ∧ e.Covers text := by
  rw [Covers, Covers, ← forall_and]
  simp only [List.forall_mem_cons, imp_and]

/-- **The bytes of a character are read as that character,** whatever follows them. -/
theorem items_encodeChar_append {e : Encoding} {c : Char} (hc : e = latin1 → c.toNat < 256)
    (s : Bytes) : e.items (e.encodeChar c ++ s) = some c :: e.items s := by
  cases e with
  | utf8 => exact Utf8.items_encodeChar_append c s
  | markedUtf8 => exact Utf8.items_encodeChar_append c s
  | utf16 order => exact Utf16.items_encodeChar_append order c s
  | utf32 order => exact Utf32.items_encodeChar_append order c s
  | latin1 => exact Latin1.items_encodeChar_append (hc rfl) s

/-- What is written for a text is read as its characters. -/
theorem items_flatMap_encodeChar {e : Encoding} {text : List Char} (h : e.Covers text) :
    e.items (text.flatMap e.encodeChar) = text.map some := by
  induction text with
  | nil => cases e <;> simp [items, Utf8.items, Utf16.items, Utf16.unitsOf, Utf16.itemsOfUnits,
      Utf32.items, Latin1.items]
  | cons c text ih =>
    obtain ⟨hc, htext⟩ := covers_cons.1 h
    rw [List.flatMap_cons, items_encodeChar_append hc, ih htext, List.map_cons]

/-- A single mark is taken off, also if the text starts like one. -/
theorem body_mark_append (e : Encoding) (s : Bytes) : e.body (e.mark ++ s) = s := by
  rw [body, after?_eq_some_iff.2 rfl, Option.getD_some]

theorem decode_encode_of_covers {e : Encoding} {text : List Char} (h : e.Covers text) :
    e.decode (e.encode text) = text := by
  rw [decode, encode, body_mark_append, items_flatMap_encodeChar h, List.map_map]
  exact List.map_id text

theorem covers_of_decode_encode {e : Encoding} {text : List Char}
    (h : e.decode (e.encode text) = text) : e.Covers text := by
  rintro rfl
  rw [decode, encode, body_mark_append] at h
  induction text with
  | nil => exact fun c hc => absurd hc List.not_mem_nil
  | cons c text ih =>
    have hc : c.toNat < 256 := by
      rcases Nat.lt_or_ge c.toNat 256 with hc | hc
      · exact hc
      · -- a question mark was written instead, which has a smaller number
        have hitems : latin1.items ((c :: text).flatMap latin1.encodeChar)
            = some '?' :: latin1.items (text.flatMap latin1.encodeChar) :=
          Latin1.items_encodeChar_append_of_le hc _
        rw [hitems] at h
        obtain rfl : '?' = c := (List.cons.inj h).1
        decide
    rw [List.flatMap_cons, items_encodeChar_append (fun _ => hc), List.map_cons] at h
    exact List.forall_mem_cons.2 ⟨hc, ih (List.cons.inj h).2⟩

/-- **Decoding undoes encoding** exactly where every character has bytes. -/
theorem decode_encode_iff (e : Encoding) (text : List Char) :
    e.decode (e.encode text) = text ↔ e.Covers text :=
  ⟨covers_of_decode_encode, decode_encode_of_covers⟩

/-- **What is read first is what the bytes start with.** -/
theorem head?_items_eq_some_iff {e : Encoding} (he : e ≠ latin1) {s : Bytes} {c : Char} :
    (e.items s).head? = some (some c) ↔ e.encodeChar c <+: s := by
  constructor
  · intro h
    obtain ⟨is, his⟩ := List.head?_eq_some_iff.1 h
    cases e with
    | utf8 => exact Utf8.encodeChar_prefix_of_items his
    | markedUtf8 => exact Utf8.encodeChar_prefix_of_items his
    | utf16 order => exact Utf16.encodeChar_prefix_of_items his
    | utf32 order => exact Utf32.encodeChar_prefix_of_items his
    | latin1 => exact absurd rfl he
  · rintro ⟨t, rfl⟩
    rw [items_encodeChar_append (fun h => absurd h he), List.head?_cons]

end Encoding

end CommitStamp
