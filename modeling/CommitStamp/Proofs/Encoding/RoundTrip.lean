import CommitStamp.Encoding.Basic
/-!
# Writing back what was read

Bytes that hold no defect are written back as they were: each character is encoded to exactly the
bytes that it was read from. The ranges of the readers see to that. In UTF-8 there are no overlong
forms and no surrogates, in UTF-16 only a high surrogate before a low one makes a pair, and in
UTF-32 a number has to be a code point.

`Encoding.encode_decode` puts this together with the mark: a file whose body is well formed is
written back byte for byte.
-/

namespace CommitStamp

open Text

theorem toNat_ofNat_of_isValidChar {n : Nat} (h : n.isValidChar) : (Char.ofNat n).toNat = n := by
  rw [Char.ofNat, dif_pos h]
  rfl

/-- A byte is the byte of its number. -/
theorem ofNat_eq_of_eq_toNat {n : Nat} {b : UInt8} (h : n = b.toNat) : UInt8.ofNat n = b := by
  rw [h, UInt8.ofNat_toNat]

/-- The characters of items, with the replacement for defects, in bytes or in units. -/
def encodeItems {α : Type} (f : Char → List α) (items : List (Option Char)) : List α :=
  (items.map fun i => i.getD Encoding.replacement).flatMap f

theorem encodeItems_cons_some {α : Type} (f : Char → List α) (c : Char)
    (items : List (Option Char)) :
    encodeItems f (some c :: items) = f c ++ encodeItems f items := rfl

/-! ## UTF-8 -/

namespace Utf8

/-- A continuation of full width starts with a byte within the bounds. -/
theorem continuation_succ {low high width : Nat} {s : Bytes}
    (h : (continuation low high (width + 1) s).length = width + 1) :
    ∃ b r, s = b :: r ∧ low ≤ b.toNat ∧ b.toNat ≤ high ∧
      continuation low high (width + 1) s = b :: continuation 0x80 0xbf width r ∧
      (continuation 0x80 0xbf width r).length = width := by
  match s with
  | [] => exact absurd h (by simp [continuation])
  | b :: r =>
    rw [continuation] at h
    split at h
    · next hb =>
      refine ⟨b, r, rfl, hb.1, hb.2, by rw [continuation, if_pos hb], ?_⟩
      simpa using h
    · exact absurd h (by simp)

theorem continuation_zero {low high : Nat} {s : Bytes} : continuation low high 0 s = [] := by
  rw [continuation]

/-! The bytes of a code point, by the number of bytes. -/

theorem encodeChar_one {c : Char} {a : UInt8} (hc : c.toNat = a.toNat) (ha : a.toNat < 0x80) :
    encodeChar c = [a] := by
  rw [encodeChar, if_pos (by omega), ofNat_eq_of_eq_toNat hc]

theorem encodeChar_two {c : Char} {a b : UInt8}
    (hc : c.toNat = (a.toNat - 0xc0) * 64 + (b.toNat - 0x80))
    (ha : 0xc2 ≤ a.toNat ∧ a.toNat < 0xe0) (hb : 0x80 ≤ b.toNat ∧ b.toNat ≤ 0xbf) :
    encodeChar c = [a, b] := by
  rw [encodeChar, if_neg (by omega), if_pos (by omega),
    ofNat_eq_of_eq_toNat (b := a) (by omega), ofNat_eq_of_eq_toNat (b := b) (by omega)]

theorem encodeChar_three {c : Char} {a b d : UInt8}
    (hc : c.toNat = ((a.toNat - 0xe0) * 64 + (b.toNat - 0x80)) * 64 + (d.toNat - 0x80))
    (ha : 0xe0 ≤ a.toNat ∧ a.toNat < 0xf0) (hb : 0x80 ≤ b.toNat ∧ b.toNat ≤ 0xbf)
    (hlong : a.toNat = 0xe0 → 0xa0 ≤ b.toNat) (hd : 0x80 ≤ d.toNat ∧ d.toNat ≤ 0xbf) :
    encodeChar c = [a, b, d] := by
  rw [encodeChar, if_neg (by omega), if_neg (by omega), if_pos (by omega),
    ofNat_eq_of_eq_toNat (b := a) (by omega), ofNat_eq_of_eq_toNat (b := b) (by omega),
    ofNat_eq_of_eq_toNat (b := d) (by omega)]

theorem encodeChar_four {c : Char} {a b d e : UInt8}
    (hc : c.toNat = (((a.toNat - 0xf0) * 64 + (b.toNat - 0x80)) * 64 + (d.toNat - 0x80)) * 64
      + (e.toNat - 0x80))
    (ha : 0xf0 ≤ a.toNat ∧ a.toNat < 0xf5) (hb : 0x80 ≤ b.toNat ∧ b.toNat ≤ 0xbf)
    (hlong : a.toNat = 0xf0 → 0x90 ≤ b.toNat) (hd : 0x80 ≤ d.toNat ∧ d.toNat ≤ 0xbf)
    (he : 0x80 ≤ e.toNat ∧ e.toNat ≤ 0xbf) :
    encodeChar c = [a, b, d, e] := by
  rw [encodeChar, if_neg (by omega), if_neg (by omega), if_neg (by omega),
    ofNat_eq_of_eq_toNat (b := a) (by omega), ofNat_eq_of_eq_toNat (b := b) (by omega),
    ofNat_eq_of_eq_toNat (b := d) (by omega), ofNat_eq_of_eq_toNat (b := e) (by omega)]

/-- What an announced sequence reads as, if its continuation is complete. -/
theorem item_eq_some {b : UInt8} {s : Bytes} {c : Char} {k : Nat} (h : item b s = (some c, k)) :
    ∃ lead, lead? b = some lead ∧ k = lead.width ∧
      (continuation lead.low lead.high lead.width s).length = lead.width ∧
      c = Char.ofNat ((continuation lead.low lead.high lead.width s).foldl
        (fun n b => n * 64 + (b.toNat - 0x80)) lead.bits) := by
  rw [item] at h
  split at h
  · exact absurd h (by simp)
  · next lead hlead =>
    dsimp only at h
    split at h
    · next hfull =>
      obtain ⟨hc, hk⟩ := Prod.mk.inj h
      exact ⟨lead, hlead, by rw [← hk, hfull], hfull, (Option.some.inj hc).symm⟩
    · exact absurd h (by simp)

/-- What a first byte can announce, with the bounds that matter for the second one. -/
theorem lead?_cases {a : UInt8} {lead : Lead} (h : lead? a = some lead) :
    (a.toNat < 0x80 ∧ lead = ⟨a.toNat, 0, 0x80, 0xbf⟩) ∨
    (0xc2 ≤ a.toNat ∧ a.toNat < 0xe0 ∧ lead = ⟨a.toNat - 0xc0, 1, 0x80, 0xbf⟩) ∨
    (∃ low high, lead = ⟨a.toNat - 0xe0, 2, low, high⟩ ∧ 0xe0 ≤ a.toNat ∧ a.toNat < 0xf0 ∧
      0x80 ≤ low ∧ high ≤ 0xbf ∧ (a.toNat = 0xe0 → 0xa0 ≤ low) ∧ (a.toNat = 0xed → high ≤ 0x9f)) ∨
    (∃ low high, lead = ⟨a.toNat - 0xf0, 3, low, high⟩ ∧ 0xf0 ≤ a.toNat ∧ a.toNat < 0xf5 ∧
      0x80 ≤ low ∧ high ≤ 0xbf ∧ (a.toNat = 0xf0 → 0x90 ≤ low) ∧
      (a.toNat = 0xf4 → high ≤ 0x8f)) := by
  rw [lead?] at h
  split at h
  · next ha => exact .inl ⟨ha, (Option.some.inj h).symm⟩
  split at h
  · exact absurd h (by simp)
  split at h
  · next ha => exact .inr (.inl ⟨by omega, ha, (Option.some.inj h).symm⟩)
  split at h
  · refine .inr (.inr (.inl ⟨_, _, (Option.some.inj h).symm, by omega, by omega, ?_, ?_, ?_, ?_⟩))
    all_goals split <;> omega
  split at h
  · refine .inr (.inr (.inr ⟨_, _, (Option.some.inj h).symm, by omega, by omega, ?_, ?_, ?_, ?_⟩))
    all_goals split <;> omega
  · exact absurd h (by simp)

/-- **A character is encoded to the bytes that it was read from.** -/
theorem encodeChar_of_item {b : UInt8} {s : Bytes} {c : Char} {k : Nat}
    (h : item b s = (some c, k)) : encodeChar c = b :: s.take k := by
  obtain ⟨lead, hlead, rfl, hfull, rfl⟩ := item_eq_some h
  rcases lead?_cases hlead with ⟨ha, rfl⟩ | ⟨ha, ha', rfl⟩ |
    ⟨low, high, rfl, ha, ha', hl, hh, hlong, hsurrogate⟩ |
    ⟨low, high, rfl, ha, ha', hl, hh, hlong, hlast⟩
  · rw [continuation_zero, List.foldl_nil, List.take_zero]
    have hvalid : b.toNat.isValidChar := .inl (by omega)
    exact encodeChar_one (toNat_ofNat_of_isValidChar hvalid) ha
  · obtain ⟨b₁, s, rfl, hlow, hhigh, heq, -⟩ := continuation_succ hfull
    dsimp only at hlow hhigh
    rw [heq, continuation_zero]
    have hvalid : ((b.toNat - 0xc0) * 64 + (b₁.toNat - 0x80)).isValidChar := .inl (by omega)
    exact encodeChar_two (toNat_ofNat_of_isValidChar hvalid) ⟨ha, ha'⟩ ⟨hlow, hhigh⟩
  · obtain ⟨b₁, s, rfl, hlow, hhigh, heq, hfull⟩ := continuation_succ hfull
    obtain ⟨b₂, s, rfl, hlow₂, hhigh₂, heq₂, -⟩ := continuation_succ hfull
    dsimp only at hlow hhigh
    rw [heq, heq₂, continuation_zero]
    -- the second byte after 0xed is bounded so that no surrogate comes out
    have hvalid : (((b.toNat - 0xe0) * 64 + (b₁.toNat - 0x80)) * 64
        + (b₂.toNat - 0x80)).isValidChar := by
      by_cases hd : b.toNat ≤ 0xed
      · exact .inl (by omega)
      · exact .inr (by omega)
    exact encodeChar_three (toNat_ofNat_of_isValidChar hvalid) ⟨ha, ha'⟩ (by omega)
      (fun hb => Nat.le_trans (hlong hb) hlow) ⟨hlow₂, hhigh₂⟩
  · obtain ⟨b₁, s, rfl, hlow, hhigh, heq, hfull⟩ := continuation_succ hfull
    obtain ⟨b₂, s, rfl, hlow₂, hhigh₂, heq₂, hfull⟩ := continuation_succ hfull
    obtain ⟨b₃, s, rfl, hlow₃, hhigh₃, heq₃, -⟩ := continuation_succ hfull
    dsimp only at hlow hhigh
    rw [heq, heq₂, heq₃, continuation_zero]
    have hvalid : ((((b.toNat - 0xf0) * 64 + (b₁.toNat - 0x80)) * 64 + (b₂.toNat - 0x80)) * 64
        + (b₃.toNat - 0x80)).isValidChar := .inr (by omega)
    exact encodeChar_four (toNat_ofNat_of_isValidChar hvalid) ⟨ha, ha'⟩ (by omega)
      (fun hb => Nat.le_trans (hlong hb) hlow) ⟨hlow₂, hhigh₂⟩ ⟨hlow₃, hhigh₃⟩

/-- Well-formed UTF-8 is written back as it was. -/
theorem encodeItems_items (s : Bytes) (h : ∀ i ∈ items s, i.isSome = true) :
    encodeItems encodeChar (items s) = s := by
  fun_induction items s with
  | case1 => rfl
  | case2 b s ih =>
    cases hitem : (item b s).1 with
    | none => exact absurd (h none (by simp [hitem])) (by simp)
    | some c =>
      have hc : encodeChar c = b :: s.take (item b s).2 :=
        encodeChar_of_item (Prod.ext hitem rfl)
      rw [encodeItems_cons_some, hc, ih fun i hi => h i (List.mem_cons_of_mem _ hi),
        List.cons_append, List.take_append_drop]

end Utf8

/-! ## UTF-16 -/

namespace Utf16

theorem unitBytes_unit (order : ByteOrder) (a b : UInt8) :
    unitBytes order (unit order a b) = [a, b] := by
  have ha := a.toNat_lt
  have hb := b.toNat_lt
  cases order with
  | little =>
    simp only [unitBytes, unit, ByteOrder.arrange]
    rw [ofNat_eq_of_eq_toNat (b := a) (by omega), ofNat_eq_of_eq_toNat (b := b) (by omega)]
  | big =>
    simp only [unitBytes, unit, ByteOrder.arrange]
    rw [ofNat_eq_of_eq_toNat (b := b) (by omega), ofNat_eq_of_eq_toNat (b := a) (by omega)]
    rfl

theorem unit_lt (order : ByteOrder) (a b : UInt8) : unit order a b < 0x10000 := by
  have ha := a.toNat_lt
  have hb := b.toNat_lt
  cases order <;> simp only [unit] <;> omega

theorem unitsOf_lt {order : ByteOrder} {s : Bytes} : ∀ u ∈ unitsOf order s, u < 0x10000 := by
  fun_induction unitsOf order s with
  | case1 a b s ih => exact List.forall_mem_cons.2 ⟨unit_lt order a b, ih⟩
  | case2 => simp

/-- The units of an even number of bytes are written back. -/
theorem flatMap_unitBytes_unitsOf {order : ByteOrder} {s : Bytes} (h : s.length % 2 = 0) :
    (unitsOf order s).flatMap (unitBytes order) = s := by
  fun_induction unitsOf order s with
  | case1 a b s ih =>
    rw [List.length_cons, List.length_cons] at h
    rw [List.flatMap_cons, unitBytes_unit, ih (by omega)]
    rfl
  | case2 s hs =>
    match s with
    | [] => rfl
    | [a] => exact absurd h (by simp)
    | a :: b :: s => exact absurd rfl (hs a b s)

theorem units_ofNat {u : Nat} (hlt : u < 0x10000) (hh : isHigh u = false) (hl : isLow u = false) :
    units (Char.ofNat u) = [u] := by
  have hvalid : u.isValidChar := by
    simp only [isHigh, isLow, Bool.and_eq_false_iff, decide_eq_false_iff_not] at hh hl
    by_cases hu : u < 0xd800
    · exact .inl hu
    · exact .inr (by omega)
  rw [units, toNat_ofNat_of_isValidChar hvalid, if_pos hlt]

theorem units_pair {u v : Nat} (hh : isHigh u = true) (hl : isLow v = true) :
    units (Char.ofNat (0x10000 + (u - 0xd800) * 1024 + (v - 0xdc00))) = [u, v] := by
  simp only [isHigh, isLow, Bool.and_eq_true, decide_eq_true_eq] at hh hl
  have hvalid : (0x10000 + (u - 0xd800) * 1024 + (v - 0xdc00)).isValidChar := .inr (by omega)
  have hu : 0xd800 + (0x10000 + (u - 0xd800) * 1024 + (v - 0xdc00) - 0x10000) / 1024 = u := by omega
  have hv : 0xdc00 + (0x10000 + (u - 0xd800) * 1024 + (v - 0xdc00) - 0x10000) % 1024 = v := by omega
  rw [units, toNat_ofNat_of_isValidChar hvalid, if_neg (by omega), hu, hv]

/-- A unit that is read on its own as a character is the unit of that character. -/
theorem units_of_unpaired {u : Nat} {c : Char} (hu : u < 0x10000)
    (h : (if isHigh u || isLow u then none else some (Char.ofNat u)) = some c) :
    units c = [u] := by
  split at h
  · exact absurd h (by simp)
  · next hs =>
    obtain ⟨hh, hl⟩ := Bool.or_eq_false_iff.1 (Bool.not_eq_true _ ▸ hs)
    rw [← Option.some.inj h, units_ofNat hu hh hl]

/-- Units without an unpaired surrogate are the units of their characters. -/
theorem flatMap_units_itemsOfUnits {us : List Nat} (hlt : ∀ u ∈ us, u < 0x10000)
    (h : ∀ i ∈ itemsOfUnits us, i.isSome = true) : encodeItems units (itemsOfUnits us) = us := by
  fun_induction itemsOfUnits us with
  | case1 => rfl
  | case2 u =>
    obtain ⟨c, hc⟩ := Option.isSome_iff_exists.1 (h _ List.mem_cons_self)
    rw [hc, encodeItems_cons_some, units_of_unpaired (hlt u List.mem_cons_self) hc]
    rfl
  | case3 u v us hpair ih =>
    obtain ⟨hh, hl⟩ := Bool.and_eq_true_iff.1 hpair
    rw [encodeItems_cons_some, units_pair hh hl, ih]
    · rfl
    · exact fun w hw => hlt w (List.mem_cons_of_mem _ (List.mem_cons_of_mem _ hw))
    · exact fun i hi => h i (List.mem_cons_of_mem _ hi)
  | case4 u v us hpair ih =>
    obtain ⟨c, hc⟩ := Option.isSome_iff_exists.1 (h _ List.mem_cons_self)
    rw [hc, encodeItems_cons_some, units_of_unpaired (hlt u List.mem_cons_self) hc, ih]
    · rfl
    · exact fun w hw => hlt w (List.mem_cons_of_mem _ hw)
    · exact fun i hi => h i (List.mem_cons_of_mem _ hi)

/-- Well-formed UTF-16 is written back as it was. -/
theorem encodeItems_items {order : ByteOrder} {s : Bytes}
    (h : ∀ i ∈ items order s, i.isSome = true) :
    encodeItems (encodeChar order) (items order s) = s := by
  -- an odd byte at the end would be a defect
  have heven : s.length % 2 = 0 := by
    rcases Nat.mod_two_eq_zero_or_one s.length with h0 | h1
    · exact h0
    · exact absurd (h none (by simp [items, h1])) (by simp)
  have hitems : items order s = itemsOfUnits (unitsOf order s) := by
    rw [items, if_pos heven, List.append_nil]
  rw [hitems] at h ⊢
  have hunits := flatMap_units_itemsOfUnits unitsOf_lt h
  calc encodeItems (encodeChar order) (itemsOfUnits (unitsOf order s))
      = (encodeItems units (itemsOfUnits (unitsOf order s))).flatMap (unitBytes order) := by
        rw [encodeItems, encodeItems, List.flatMap_assoc]
        rfl
    _ = s := by rw [hunits, flatMap_unitBytes_unitsOf heven]

end Utf16

/-! ## UTF-32 and single bytes -/

namespace Utf32

theorem encodeChar_unit {order : ByteOrder} {a b d e : UInt8} {c : Char}
    (h : c.toNat = unit order a b d e) : encodeChar order c = [a, b, d, e] := by
  have ha := a.toNat_lt
  have hb := b.toNat_lt
  have hd := d.toNat_lt
  have he := e.toNat_lt
  cases order with
  | little =>
    simp only [unit] at h
    simp only [encodeChar, ByteOrder.arrange]
    rw [ofNat_eq_of_eq_toNat (b := a) (by omega), ofNat_eq_of_eq_toNat (b := b) (by omega),
      ofNat_eq_of_eq_toNat (b := d) (by omega), ofNat_eq_of_eq_toNat (b := e) (by omega)]
  | big =>
    simp only [unit] at h
    simp only [encodeChar, ByteOrder.arrange]
    rw [ofNat_eq_of_eq_toNat (b := e) (by omega), ofNat_eq_of_eq_toNat (b := d) (by omega),
      ofNat_eq_of_eq_toNat (b := b) (by omega), ofNat_eq_of_eq_toNat (b := a) (by omega)]
    rfl

/-- Well-formed UTF-32 is written back as it was. -/
theorem encodeItems_items {order : ByteOrder} {s : Bytes}
    (h : ∀ i ∈ items order s, i.isSome = true) :
    encodeItems (encodeChar order) (items order s) = s := by
  fun_induction items order s with
  | case1 => rfl
  | case2 a b d e s ih =>
    have hsome := h _ List.mem_cons_self
    rw [char?] at hsome ⊢
    split at hsome
    · next hvalid =>
      rw [if_pos hvalid, encodeItems_cons_some,
        encodeChar_unit (toNat_ofNat_of_isValidChar hvalid),
        ih fun i hi => h i (List.mem_cons_of_mem _ hi)]
      rfl
    · exact absurd hsome (by simp)
  | case3 => exact absurd (h none (by simp)) (by simp)

end Utf32

namespace Latin1

/-- Single bytes are always written back as they were. -/
theorem encodeItems_items (s : Bytes) : encodeItems encodeChar (items s) = s := by
  induction s with
  | nil => rfl
  | cons b s ih =>
    have hb := b.toNat_lt
    have hvalid : b.toNat.isValidChar := .inl (by omega)
    have hc : encodeChar (Char.ofNat b.toNat) = [b] := by
      rw [encodeChar, toNat_ofNat_of_isValidChar hvalid, if_pos (by omega), UInt8.ofNat_toNat]
    rw [items, List.map_cons, encodeItems_cons_some, hc]
    exact congrArg _ ih

end Latin1

/-! ## Files -/

namespace Encoding

/-- A well-formed body is written back as it was. -/
theorem encodeItems_items {e : Encoding} {s : Bytes} (h : e.WellFormed s) :
    encodeItems e.encodeChar (e.items s) = s := by
  cases e with
  | utf8 => exact Utf8.encodeItems_items s h
  | markedUtf8 => exact Utf8.encodeItems_items s h
  | utf16 order => exact Utf16.encodeItems_items h
  | utf32 order => exact Utf32.encodeItems_items h
  | latin1 => exact Latin1.encodeItems_items s

theorem wellFormed_latin1 (s : Bytes) : latin1.WellFormed s := by
  intro i hi
  obtain ⟨b, -, rfl⟩ := List.mem_map.1 hi
  rfl

theorem body_of_mark_eq_nil {e : Encoding} (he : e.mark = []) (b : Bytes) : e.body b = b := by
  rw [body, he]
  rfl

/-- A file starts with the mark of its encoding. -/
theorem mark_append_body_detect (b : Bytes) : (detect b).mark ++ (detect b).body b = b := by
  rw [detect]
  split
  · next e he =>
    have hsome : (after? e.mark b).isSome = true := by simpa using List.find?_some he
    obtain ⟨s, hs⟩ := Option.isSome_iff_exists.1 hsome
    rw [body, hs]
    exact (after?_eq_some_iff.1 hs).symm
  · split <;> rfl

/-- Without a mark the detected encoding has no defects. -/
theorem wellFormed_detect {b : Bytes} (h : (detect b).mark = []) :
    (detect b).WellFormed ((detect b).body b) := by
  rw [body_of_mark_eq_nil h]
  rw [detect] at h ⊢
  split at h
  · next e he =>
    have hmarks : ∀ e ∈ marked, e.mark ≠ [] := by decide
    exact absurd h (hmarks e (List.mem_of_find?_eq_some he))
  · split
    · next hwf => exact hwf
    · exact wellFormed_latin1 b

/-- **A file with a well-formed body is written back byte for byte.** -/
theorem encode_decode {b : Bytes} (h : (detect b).WellFormed ((detect b).body b)) :
    (detect b).encode ((detect b).decode b) = b := by
  have hbody : ((detect b).decode b).flatMap (detect b).encodeChar = (detect b).body b :=
    encodeItems_items h
  rw [encode, hbody, mark_append_body_detect]

end Encoding

end CommitStamp
