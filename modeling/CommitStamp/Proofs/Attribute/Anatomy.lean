import CommitStamp.Attribute.Line
/-!
# The anatomy of an attribute line

`AttributeLine.of?` reads a line from the left. Here it is said what a line consists of when that
succeeds: a head that spells the words of an attribute with blanks between them (`Spells`), a value
without a newline, and a tail in which no later cut is possible. `AttributeLine.of?_eq_some_iff` is
the statement, and it holds in both directions, so a line that is put together from such parts is
taken apart into the same.
-/

namespace CommitStamp

open Text

/-! ## Words in any case of the letters -/

theorem afterWord?_eq_some_iff {word s r : List Char} :
    afterWord? word s = some r ↔
      ∃ spelled, spelled.map foldCase = word.map foldCase ∧ s = spelled ++ r := by
  induction word generalizing s with
  | nil =>
    rw [afterWord?, Option.some.injEq]
    constructor
    · intro h
      exact ⟨[], rfl, h⟩
    · rintro ⟨spelled, hs, rfl⟩
      rw [List.map_eq_nil_iff.1 hs, List.nil_append]
  | cons w word ih =>
    cases s with
    | nil =>
      rw [afterWord?]
      constructor
      · intro h
        exact absurd h (by simp)
      · rintro ⟨spelled, hs, h⟩
        rw [(List.append_eq_nil_iff.1 h.symm).1] at hs
        exact absurd hs (by simp)
    | cons c s =>
      rw [afterWord?]
      constructor
      · intro h
        split at h
        · next hc =>
          obtain ⟨spelled, hs, rfl⟩ := ih.1 h
          exact ⟨c :: spelled, by rw [List.map_cons, List.map_cons, hc, hs], rfl⟩
        · exact absurd h (by simp)
      · rintro ⟨spelled, hs, h⟩
        match spelled, hs, h with
        | d :: spelled, hs, h =>
          obtain ⟨rfl, h⟩ := List.cons.inj h
          obtain ⟨hc, hs⟩ := List.cons.inj hs
          rw [if_pos hc]
          exact ih.2 ⟨spelled, hs, by simpa using h⟩

/-- Folding takes a letter to a lowercase ASCII letter and leaves every other character alone. -/
theorem foldCase_eq_or_letter (d : Char) :
    foldCase d = d ∨ ('a' ≤ foldCase d ∧ foldCase d ≤ 'z') := by
  have hcapital : ∀ n < 128, 'A' ≤ Char.ofNat n ∧ Char.ofNat n ≤ 'Z' →
      'a' ≤ Char.ofNat ((Char.ofNat n).toNat + 32) ∧
        Char.ofNat ((Char.ofNat n).toNat + 32) ≤ 'z' := by decide
  rw [foldCase]
  split
  · next h =>
    have hlt : d.toNat < 128 := Nat.lt_of_le_of_lt (UInt32.le_iff_toNat_le.1 h.2) (by decide)
    have hletter := hcapital d.toNat hlt
    rw [Char.ofNat_toNat] at hletter
    exact .inr (hletter h)
  split
  · exact .inr (by decide)
  split
  · exact .inr (by decide)
  · exact .inl rfl

/-- A sign is no letter in any case, so it is read as it stands. -/
theorem foldCase_eq_iff {c d : Char} (hc : foldCase c = c) (hl : ¬('a' ≤ c ∧ c ≤ 'z')) :
    foldCase d = foldCase c ↔ d = c := by
  rw [hc]
  constructor
  · intro h
    rcases foldCase_eq_or_letter d with hd | hd
    · rw [← hd, h]
    · exact absurd (h ▸ hd) hl
  · rintro rfl
    exact hc

theorem after?_eq_afterWord? {c : Char} (hc : foldCase c = c) (hl : ¬('a' ≤ c ∧ c ≤ 'z'))
    (s : List Char) : after? [c] s = afterWord? [c] s := by
  cases s with
  | nil => rfl
  | cons d s => simp only [after?, afterWord?, foldCase_eq_iff hc hl]

theorem foldCase_of_isBlank {c : Char} (h : isBlank c = true) : foldCase c = c := by
  have hcapital : ∀ n < 128, 'A' ≤ Char.ofNat n ∧ Char.ofNat n ≤ 'Z' →
      isBlank (Char.ofNat n) = false := by decide
  rw [foldCase]
  split
  · next hc =>
    have hlt : c.toNat < 128 := Nat.lt_of_le_of_lt (UInt32.le_iff_toNat_le.1 hc.2) (by decide)
    have hblank := hcapital c.toNat hlt
    rw [Char.ofNat_toNat] at hblank
    rw [hblank hc] at h
    exact absurd h (by simp)
  split
  · next hc =>
    rw [hc] at h
    exact absurd h (by decide)
  split
  · next hc =>
    rw [hc] at h
    exact absurd h (by decide)
  · rfl

/-! ## Words after blanks -/

namespace AttributeLine

/-- The words one after the other, with blanks before each. -/
def afterWords? : List (List Char) → List Char → Option (List Char)
  | [], s => some s
  | word :: words, s => (afterWord? word (skipBlanks s)).bind (afterWords? words)

/-- A text that spells the words in any case of the letters, with blanks before each. -/
inductive Spells : List (List Char) → List Char → Prop
  | nil : Spells [] []
  | cons {word blanks spelled rest : List Char} {words : List (List Char)}
      (isBlank_of_mem : ∀ c ∈ blanks, isBlank c = true)
      (map_foldCase : spelled.map foldCase = word.map foldCase) (spells_rest : Spells words rest) :
      Spells (word :: words) (blanks ++ (spelled ++ rest))

/-- The word does not start with a blank. -/
def StartsPlain (word : List Char) : Prop :=
  ∃ c w, word = c :: w ∧ isBlank (foldCase c) = false

theorem skipBlanks_append {blanks s : List Char} (hb : ∀ c ∈ blanks, isBlank c = true) :
    skipBlanks (blanks ++ s) = skipBlanks s :=
  List.dropWhile_append_of_pos hb

/-- What is left after the blanks were skipped had blanks before it. -/
theorem exists_blanks_append {s t : List Char} (h : skipBlanks s = t) :
    ∃ blanks, (∀ c ∈ blanks, isBlank c = true) ∧ s = blanks ++ t := by
  refine ⟨s.takeWhile isBlank, fun c hc => List.all_eq_true.1 List.all_takeWhile c hc, ?_⟩
  rw [← h]
  exact List.takeWhile_append_dropWhile.symm

/-- A spelling of a word that does not start with a blank does not start with one either. -/
theorem skipBlanks_spelled {word spelled : List Char} (hword : StartsPlain word)
    (hs : spelled.map foldCase = word.map foldCase) (s : List Char) :
    skipBlanks (spelled ++ s) = spelled ++ s := by
  obtain ⟨c, w, rfl, hc⟩ := hword
  match spelled, hs with
  | d :: spelled, hs =>
    have hd : foldCase d = foldCase c := (List.cons.inj hs).1
    have hplain : isBlank d = false := by
      cases hblank : isBlank d with
      | false => rfl
      | true => rw [← hd, foldCase_of_isBlank hblank, hblank] at hc; exact absurd hc (by simp)
    exact List.dropWhile_cons_of_neg (by simp [hplain])

theorem afterWords?_eq_some_iff {words : List (List Char)} {s r : List Char}
    (hw : ∀ word ∈ words, StartsPlain word) :
    afterWords? words s = some r ↔ ∃ head, Spells words head ∧ s = head ++ r := by
  induction words generalizing s with
  | nil =>
    rw [afterWords?, Option.some.injEq]
    constructor
    · rintro rfl
      exact ⟨[], .nil, rfl⟩
    · rintro ⟨head, ⟨⟩, rfl⟩
      rfl
  | cons word words ih =>
    have hrest : ∀ w ∈ words, StartsPlain w := fun w hm => hw w (List.mem_cons_of_mem word hm)
    rw [afterWords?]
    constructor
    · intro h
      obtain ⟨t, ht, hr⟩ := Option.bind_eq_some_iff.1 h
      obtain ⟨spelled, hspelled, hskip⟩ := afterWord?_eq_some_iff.1 ht
      obtain ⟨rest, hspells, rfl⟩ := (ih hrest).1 hr
      obtain ⟨blanks, hblank, rfl⟩ := exists_blanks_append hskip
      refine ⟨blanks ++ (spelled ++ rest), .cons hblank hspelled hspells, ?_⟩
      rw [List.append_assoc, List.append_assoc]
    · rintro ⟨head, hhead, rfl⟩
      cases hhead with
      | cons hblank hspelled hspells =>
        rw [List.append_assoc, List.append_assoc, skipBlanks_append hblank,
          skipBlanks_spelled (hw word List.mem_cons_self) hspelled,
          afterWord?_eq_some_iff.2 ⟨_, hspelled, rfl⟩]
        exact (ih hrest).2 ⟨_, hspells, rfl⟩

/-! ## Heads -/

/-- The words and signs of a head. -/
def headWords (b : Brackets) : List (List Char) :=
  [[b.opening], "assembly".toList, [':'], "AssemblyInformationalVersion".toList, ['('], ['"']]

theorem startsPlain_of_mem_headWords {b : Brackets} :
    ∀ word ∈ headWords b, StartsPlain word := by
  have hplain : ∀ word ∈ headWords b, word.head?.any (fun c => !isBlank (foldCase c)) = true := by
    cases b <;> decide
  intro word hw
  have h := hplain word hw
  match word, h with
  | c :: w, h => exact ⟨c, w, rfl, by simpa using h⟩

theorem afterHead?_eq (b : Brackets) (line : List Char) :
    afterHead? b line = afterWords? (headWords b) line := by
  have hopening : foldCase b.opening = b.opening ∧ ¬('a' ≤ b.opening ∧ b.opening ≤ 'z') := by
    cases b <;> decide
  simp only [afterHead?, headWords, afterWords?, after?_eq_afterWord? hopening.1 hopening.2,
    after?_eq_afterWord? (c := ':') (by decide) (by decide),
    after?_eq_afterWord? (c := '(') (by decide) (by decide),
    after?_eq_afterWord? (c := '"') (by decide) (by decide), Option.bind_eq_bind,
    Option.bind_fun_some]

/-- **The head of a line.** What follows it is the rest of the line after a text that spells the
words of a head. -/
theorem afterHead?_eq_some_iff {b : Brackets} {line s : List Char} :
    afterHead? b line = some s ↔ ∃ head, Spells (headWords b) head ∧ line = head ++ s := by
  rw [afterHead?_eq, afterWords?_eq_some_iff startsPlain_of_mem_headWords]

/-! ## Values -/

theorem cutValue_cons {b : Brackets} {c : Char} {s v t : List Char} (hc : c ≠ '\n')
    (h : cutValue b s = some (v, t)) : cutValue b (c :: s) = some (c :: v, t) := by
  rw [cutValue, if_neg hc, h]

/-- **The cut at the end of a value.** The value is followed by a text that is a tail as a whole and
in which no later cut is possible, and it has no newline. What the value consists of otherwise has
no part in where the cut is. -/
theorem cutValue_eq_some_iff {b : Brackets} {s v t : List Char} :
    cutValue b s = some (v, t) ↔ s = v ++ t ∧ '\n' ∉ v ∧ cutValue b t = some ([], t) := by
  induction s generalizing v with
  | nil =>
    constructor
    · intro h
      exact absurd h (by simp [cutValue])
    · rintro ⟨hs, -, ht⟩
      rw [(List.append_eq_nil_iff.1 hs.symm).2] at ht
      exact absurd ht (by simp [cutValue])
  | cons c s ih =>
    constructor
    · intro h
      have hwhole := h
      rw [cutValue] at h
      split at h
      · next v' t' hcut =>
        obtain ⟨rfl, rfl⟩ := Prod.mk.inj (Option.some.inj h)
        split at hcut
        · exact absurd hcut (by simp)
        · next hc =>
          obtain ⟨rfl, hv, ht⟩ := ih.1 hcut
          refine ⟨rfl, ?_, ht⟩
          rw [List.mem_cons]
          exact not_or.2 ⟨Ne.symm hc, hv⟩
      · split at h
        · obtain ⟨rfl, rfl⟩ := Prod.mk.inj (Option.some.inj h)
          exact ⟨rfl, List.not_mem_nil, hwhole⟩
        · exact absurd h (by simp)
    · rintro ⟨hs, hv, ht⟩
      cases v with
      | nil =>
        rw [List.nil_append] at hs
        rw [hs]
        exact ht
      | cons d v =>
        obtain ⟨rfl, hrest⟩ := List.cons.inj hs
        rw [List.mem_cons, not_or] at hv
        exact cutValue_cons (Ne.symm hv.1) (ih.2 ⟨hrest, hv.2, ht⟩)

/-! ## Whole lines -/

/-- **What an attribute line consists of.** -/
theorem of?_eq_some_iff {b : Brackets} {line : List Char} {a : AttributeLine} :
    of? b line = some a ↔
      line = a.text ∧ Spells (headWords b) a.head ∧ '\n' ∉ a.value ∧
        cutValue b a.tail = some ([], a.tail) := by
  constructor
  · intro h
    obtain ⟨s, hs, h⟩ := Option.bind_eq_some_iff.1 h
    obtain ⟨⟨value, tail⟩, hcut, h⟩ := Option.bind_eq_some_iff.1 h
    -- the head is what was there before the rest that the value is cut from
    obtain rfl := Option.some.inj h
    obtain ⟨head, hhead, rfl⟩ := afterHead?_eq_some_iff.1 hs
    obtain ⟨rfl, hvalue, htail⟩ := cutValue_eq_some_iff.1 hcut
    have htake : (head ++ (value ++ tail)).take
        ((head ++ (value ++ tail)).length - (value ++ tail).length) = head :=
      List.take_left' (by rw [List.length_append, Nat.add_sub_cancel])
    rw [htake]
    exact ⟨(List.append_assoc head value tail).symm, hhead, hvalue, htail⟩
  · rintro ⟨rfl, hhead, hvalue, htail⟩
    obtain ⟨head, value, tail⟩ := a
    have hs : afterHead? b (head ++ value ++ tail) = some (value ++ tail) :=
      afterHead?_eq_some_iff.2 ⟨head, hhead, List.append_assoc head value tail⟩
    have hcut : cutValue b (value ++ tail) = some (value, tail) :=
      cutValue_eq_some_iff.2 ⟨rfl, hvalue, htail⟩
    have htake : (head ++ value ++ tail).take
        ((head ++ value ++ tail).length - (value ++ tail).length) = head := by
      rw [List.append_assoc]
      exact List.take_left' (by rw [List.length_append, Nat.add_sub_cancel])
    show (afterHead? b (head ++ value ++ tail) >>= _) = _
    rw [hs]
    show (cutValue b (value ++ tail) >>= _) = _
    rw [hcut]
    show some (AttributeLine.mk _ value tail) = _
    rw [text, htake]

theorem Spells.ne_nil {word s : List Char} {words : List (List Char)} (hword : word ≠ [])
    (h : Spells (word :: words) s) : s ≠ [] := by
  cases h with
  | cons _ hfold _ =>
    intro hnil
    obtain ⟨-, hspelled⟩ := List.append_eq_nil_iff.1 hnil
    rw [(List.append_eq_nil_iff.1 hspelled).1, List.map_nil] at hfold
    exact hword (List.map_eq_nil_iff.1 hfold.symm)

/-- The head of an attribute line is not empty. -/
theorem head_ne_nil {b : Brackets} {line : List Char} {a : AttributeLine}
    (h : of? b line = some a) : a.head ≠ [] :=
  (of?_eq_some_iff.1 h).2.1.ne_nil (List.cons_ne_nil b.opening [])

/-- The tail of an attribute line is not empty. -/
theorem tail_ne_nil {b : Brackets} {line : List Char} {a : AttributeLine}
    (h : of? b line = some a) : a.tail ≠ [] := by
  intro hnil
  have htail := (of?_eq_some_iff.1 h).2.2.2
  rw [hnil] at htail
  exact absurd htail (by simp [cutValue])

/-- **Another value in the same place.** A line with another value is cut at the same two places. -/
theorem of?_text_with_value {b : Brackets} {line value : List Char} {a : AttributeLine}
    (h : of? b line = some a) (hv : '\n' ∉ value) :
    of? b { a with value }.text = some { a with value } := by
  obtain ⟨-, hhead, -, htail⟩ := of?_eq_some_iff.1 h
  exact of?_eq_some_iff.2 ⟨rfl, hhead, hv, htail⟩

end AttributeLine

end CommitStamp
