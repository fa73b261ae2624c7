import CommitStamp.Toml.Text
/-!
# Strings are read as they were written

`StringForm.string?_write` says that a string is read back, with the text after it, from every form
in which it may be written: always from those with escapes, and from the literal ones if the string
fits (`StringForm.Fits`). `StringForm.of` chooses a form that fits, so `writeString` may be followed
by `string?` for all strings (`string?_writeString`).

In strings of several lines the closing quotes are found at the first three in a row, and up to two
more belong to the string. `closing?_append_triple` says when that goes wrong for no text: what is
written before the closing quotes never shows three quotes in a row where the reader looks for them.
-/

namespace CommitStamp.Toml

open Text

variable {c quote : Char} {s t r e : List Char} {q : Nat}

/-! ## Escapes -/

/-- A control character is found again behind its number on four digits. -/
theorem numberedEscape?_hexadecimal (h : isControl c = true) :
    ((hexadecimal 4 c.toNat).map Char.toUpper).length = 4 ∧
      '\r' ∉ (hexadecimal 4 c.toNat).map Char.toUpper ∧
      numberedEscape? ((hexadecimal 4 c.toNat).map Char.toUpper) = some c := by
  have hall : ∀ n < 128, ((hexadecimal 4 n).map Char.toUpper).length = 4 ∧
      '\r' ∉ (hexadecimal 4 n).map Char.toUpper ∧
      numberedEscape? ((hexadecimal 4 n).map Char.toUpper) = some (Char.ofNat n) := by
    decide +kernel
  have hlt : c.toNat < 128 := by
    simp only [isControl, Bool.or_eq_true, Bool.and_eq_true, decide_eq_true_eq, beq_iff_eq] at h
    rcases h with h | rfl
    · omega
    · decide
  have hc := hall c.toNat hlt
  rwa [Char.ofNat_toNat] at hc

/-- What stands behind a backslash is read as a character, and ends no line. -/
structure Escapes (e : List Char) (c : Char) : Prop where
  escape?_append : ∀ r, escape? (e ++ r) = some (c, r)
  joinedLine?_append : ∀ r, joinedLine? (e ++ r) = none
  return_not_mem : '\r' ∉ e

/-- A character is written as it is or as an escape. -/
theorem escaped_cases (c : Char) :
    (escaped c = [c] ∧ c ≠ '"' ∧ c ≠ '\\' ∧ isControl c = false) ∨
      ∃ e, escaped c = '\\' :: e ∧ Escapes e c := by
  unfold escaped
  split
  iterate 7 exact .inr ⟨_, rfl, fun _ => rfl, fun _ => rfl, by decide⟩
  split
  · next hcontrol =>
    obtain ⟨hlen, hreturn, hread⟩ := numberedEscape?_hexadecimal hcontrol
    obtain ⟨a, b, d, e, hdigits⟩ :
        ∃ a b d e, (hexadecimal 4 c.toNat).map Char.toUpper = [a, b, d, e] := by
      match (hexadecimal 4 c.toNat).map Char.toUpper, hlen with
      | [a, b, d, e], _ => exact ⟨a, b, d, e, rfl⟩
    rw [hdigits] at hread hreturn ⊢
    refine .inr ⟨_, rfl, fun r => ?_, fun _ => rfl, ?_⟩
    · show (numberedEscape? [a, b, d, e]).map (·, r) = _
      rw [hread]
      rfl
    · rw [List.mem_cons, not_or]
      exact ⟨by decide, hreturn⟩
  · next hquote hslash hcontrol =>
    exact .inl ⟨rfl, hquote, hslash, by simpa using hcontrol⟩

theorem return_not_mem_escaped (c : Char) : '\r' ∉ escaped c := by
  rcases escaped_cases c with ⟨hself, -, -, hcontrol⟩ | ⟨e, hescaped, he⟩
  · rw [hself, List.mem_singleton]
    rintro rfl
    exact absurd hcontrol (by decide)
  · rw [hescaped, List.mem_cons, not_or]
    exact ⟨by decide, he.return_not_mem⟩

/-! ## Strings on one line -/

theorem basic?_of_escapes (h : Escapes e c) (r : List Char) :
    basic? ('\\' :: (e ++ r)) = (basic? r).map fun (t, r) => (c :: t, r) := by
  rw [basic?]
  simp only [Char.reduceEq, if_false, if_true]
  split
  · next h' =>
    rw [h.escape?_append] at h'
    cases h'
    rfl
  · next h' =>
    rw [h.escape?_append] at h'
    cases h'

theorem basic?_flatMap_escaped (s r : List Char) :
    basic? (s.flatMap escaped ++ '"' :: r) = some (s, r) := by
  induction s with
  | nil => rw [List.flatMap_nil, List.nil_append, basic?, if_pos rfl]
  | cons c s ih =>
    rw [List.flatMap_cons, List.append_assoc]
    rcases escaped_cases c with ⟨hself, hquote, hslash, hcontrol⟩ | ⟨e, hescaped, he⟩
    · rw [hself, List.singleton_append, basic?, if_neg hquote, if_neg hslash, hcontrol, ih]
      rfl
    · rw [hescaped, List.cons_append, basic?_of_escapes he, ih]
      rfl

theorem literal?_append (hquote : '\'' ∉ s) (hs : s.any isControl = false) (r : List Char) :
    literal? (s ++ '\'' :: r) = some (s, r) := by
  rw [literal?, cutAt_eq_some_iff.2 ⟨rfl, hquote⟩]
  simp only [Option.filter_some, hs, Bool.not_false, if_true]

/-! ## Closing quotes -/

/-- Three quotes close a text that does not start with three itself either right away, and then the
text is nothing but quotes, or not at its start. -/
theorem closing?_append_triple (hs : s.take 3 ≠ [quote, quote, quote])
    (hr : r.head? ≠ some quote) :
    (closing? quote (s ++ ([quote, quote, quote] ++ r)) = some (s, r) ∧ ∀ c ∈ s, c = quote) ∨
      closing? quote (s ++ ([quote, quote, quote] ++ r)) = none := by
  -- no quote after the closing ones counts as one of the string's
  have hextra : ∀ n, (r.take n).takeWhile (· == quote) = [] := by
    intro n
    cases n with
    | zero => rfl
    | succ n =>
      cases r with
      | nil => rfl
      | cons a r =>
        have ha : a ≠ quote := by simpa using hr
        simp [ha]
  rw [closing?]
  match s with
  | [] => simp [after?, hextra]
  | [a] =>
    by_cases ha : a = quote
    · simp [after?, ha, hextra]
    · simp [after?, ha]
  | [a, b] =>
    by_cases ha : a = quote
    · by_cases hb : b = quote
      · simp [after?, ha, hb]
      · simp [after?, hb]
    · simp [after?, ha]
  | a :: b :: c :: s =>
    right
    by_cases ha : a = quote
    · by_cases hb : b = quote
      · have hc : c ≠ quote := by simpa [ha, hb] using hs
        simp [after?, hc]
      · simp [after?, hb]
    · simp [after?, ha]

theorem closing?_of_ne (h : c ≠ quote) : closing? quote (c :: s) = none := by
  simp [closing?, after?, h]

@[simp] theorem closing?_nil : closing? quote [] = none := by
  simp [closing?, after?]

/-! ## Basic strings of several lines -/

theorem basicBlock?_of_closing? {found : List Char × List Char} (h : closing? '"' s = some found) :
    basicBlock? s = some found := by
  cases s with
  | nil => exact absurd h (by simp)
  | cons c s => rw [basicBlock?, h]

theorem basicBlock?_of_escapes (h : Escapes e c) (r : List Char) :
    basicBlock? ('\\' :: (e ++ r)) = (basicBlock? r).map fun (t, r) => (c :: t, r) := by
  rw [basicBlock?, closing?_of_ne (by decide)]
  simp only [if_true]
  split
  · next h' =>
    rw [h.joinedLine?_append] at h'
    cases h'
  split
  · next h' =>
    rw [h.escape?_append] at h'
    cases h'
    rfl
  · next h' =>
    rw [h.escape?_append] at h'
    cases h'

/-- A character that stands as it is in a written string of several lines. -/
def IsLineChar (c : Char) : Prop :=
  isControl c = false ∨ c = '\n'

theorem IsLineChar.isBlockChar (h : IsLineChar c) : isBlockChar c = true := by
  rcases h with h | rfl
  · rw [Toml.isBlockChar, h]
    rfl
  · rfl

theorem IsLineChar.ne_return (h : IsLineChar c) : c ≠ '\r' := by
  rintro rfl
  exact absurd h (by unfold IsLineChar; decide)

theorem basicBlock?_of_isLineChar (hclosing : closing? '"' (c :: s) = none) (hslash : c ≠ '\\')
    (hc : IsLineChar c) :
    basicBlock? (c :: s) = (basicBlock? s).map fun (t, r) => (c :: t, r) := by
  rw [basicBlock?, hclosing]
  simp only [if_neg hslash, hc.isBlockChar, if_true]

/-- What is written for a character after `q` quotes in a row: a quote, the character, or an
escape. -/
theorem blockEscaped_cons_cases (q : Nat) (c : Char) (s : List Char) :
    (c = '"' ∧ q < 2 ∧ blockEscaped q (c :: s) = c :: blockEscaped (q + 1) s) ∨
      (c ≠ '"' ∧ c ≠ '\\' ∧ IsLineChar c ∧ blockEscaped q (c :: s) = c :: blockEscaped 0 s) ∨
      ∃ e, Escapes e c ∧ blockEscaped q (c :: s) = '\\' :: (e ++ blockEscaped 0 s) := by
  rw [blockEscaped]
  split
  · next hquote =>
    split
    · next hq => exact .inl ⟨hquote, hq, by rw [hquote]⟩
    · exact .inr (.inr ⟨['"'], ⟨fun _ => by rw [hquote]; rfl, fun _ => rfl, by decide⟩, rfl⟩)
  next hquote =>
  split
  · next hline => exact .inr (.inl ⟨hquote, by simp [hline], .inr hline, by rw [hline]⟩)
  rcases escaped_cases c with ⟨hself, -, hslash, hcontrol⟩ | ⟨e, hescaped, he⟩
  · exact .inr (.inl ⟨hquote, hslash, .inl hcontrol, by rw [hself]; rfl⟩)
  · exact .inr (.inr ⟨e, he, by rw [hescaped]; rfl⟩)

theorem return_not_mem_blockEscaped : '\r' ∉ blockEscaped q s := by
  induction s generalizing q with
  | nil => exact List.not_mem_nil
  | cons c s ih =>
    rcases blockEscaped_cons_cases q c s with ⟨rfl, -, heq⟩ | ⟨-, -, hc, heq⟩ | ⟨e, he, heq⟩
    · rw [heq, List.mem_cons, not_or]
      exact ⟨by decide, ih⟩
    · rw [heq, List.mem_cons, not_or]
      exact ⟨hc.ne_return.symm, ih⟩
    · rw [heq, List.mem_cons, not_or, List.mem_append, not_or]
      exact ⟨by decide, he.return_not_mem, ih⟩

/-- A quote is written for a quote only, and where fewer than two stand before it. -/
theorem of_blockEscaped_eq_cons (h : blockEscaped q s = '"' :: t) :
    q < 2 ∧ ∃ s', s = '"' :: s' ∧ t = blockEscaped (q + 1) s' := by
  cases s with
  | nil => exact absurd h (by simp [blockEscaped])
  | cons c s =>
    rcases blockEscaped_cons_cases q c s with ⟨rfl, hq, heq⟩ | ⟨hquote, -, -, heq⟩ | ⟨e, -, heq⟩
    · rw [heq] at h
      exact ⟨hq, s, rfl, (List.cons.inj h).2.symm⟩
    · rw [heq] at h
      exact absurd (List.cons.inj h).1 hquote
    · rw [heq] at h
      exact absurd (List.cons.inj h).1 (by decide)

/-- No three quotes in a row are written without an escape. -/
theorem take_blockEscaped_ne (q : Nat) (s : List Char) :
    (blockEscaped q s).take 3 ≠ ['"', '"', '"'] := by
  intro h
  match hs : blockEscaped q s, h with
  | a :: b :: c :: t, h =>
    obtain ⟨rfl, rfl, rfl⟩ : a = '"' ∧ b = '"' ∧ c = '"' := by simpa using h
    obtain ⟨hq, s', rfl, hs'⟩ := of_blockEscaped_eq_cons hs
    obtain ⟨-, s'', rfl, hs''⟩ := of_blockEscaped_eq_cons hs'.symm
    obtain ⟨hq'', -⟩ := of_blockEscaped_eq_cons hs''.symm
    omega

/-- What is written with quotes only is quotes. -/
theorem blockEscaped_eq_self (h : ∀ c ∈ blockEscaped q s, c = '"') : blockEscaped q s = s := by
  induction s generalizing q with
  | nil => rfl
  | cons c s ih =>
    rcases blockEscaped_cons_cases q c s with ⟨-, -, heq⟩ | ⟨hquote, -, -, heq⟩ | ⟨e, -, heq⟩
    · rw [heq] at h ⊢
      rw [ih fun d hd => h d (List.mem_cons_of_mem c hd)]
    · rw [heq] at h
      exact absurd (h c List.mem_cons_self) hquote
    · rw [heq] at h
      exact absurd (h '\\' List.mem_cons_self) (by decide)

theorem basicBlock?_blockEscaped (q : Nat) (s : List Char) (hr : r.head? ≠ some '"') :
    basicBlock? (blockEscaped q s ++ (['"', '"', '"'] ++ r)) = some (s, r) := by
  induction s generalizing q with
  | nil =>
    rcases closing?_append_triple (take_blockEscaped_ne q []) hr with ⟨hfound, -⟩ | hnone
    · exact basicBlock?_of_closing? hfound
    · exact absurd hnone (by simp [closing?, after?, blockEscaped])
  | cons c s ih =>
    -- the closing quotes are found here if only quotes are left, and otherwise one step further
    rcases closing?_append_triple (take_blockEscaped_ne q (c :: s)) hr with
      ⟨hfound, hquotes⟩ | hnone
    · rw [basicBlock?_of_closing? hfound, blockEscaped_eq_self hquotes]
    rcases blockEscaped_cons_cases q c s with
      ⟨rfl, -, heq⟩ | ⟨-, hslash, hc, heq⟩ | ⟨e, he, heq⟩
    · rw [heq, List.cons_append] at hnone ⊢
      rw [basicBlock?_of_isLineChar hnone (by decide) (.inl (by decide)), ih]
      rfl
    · rw [heq, List.cons_append] at hnone ⊢
      rw [basicBlock?_of_isLineChar hnone hslash hc, ih]
      rfl
    · rw [heq, List.cons_append, List.append_assoc, basicBlock?_of_escapes he, ih]
      rfl

/-! ## Literal strings of several lines -/

theorem literalBlock?_of_closing? {found : List Char × List Char}
    (h : closing? '\'' s = some found) : literalBlock? s = some found := by
  cases s with
  | nil => exact absurd h (by simp)
  | cons c s => rw [literalBlock?, h]

theorem hasTriple_cons (h : hasTriple quote (c :: s) = false) :
    hasTriple quote s = false ∧ (c :: s).take 3 ≠ [quote, quote, quote] := by
  match s with
  | [] => exact ⟨rfl, by simp⟩
  | [_] => exact ⟨rfl, by simp⟩
  | a :: b :: s =>
    rw [hasTriple, Bool.or_eq_false_iff] at h
    refine ⟨h.2, fun heq => ?_⟩
    obtain ⟨rfl, rfl, rfl⟩ : c = quote ∧ a = quote ∧ b = quote := by simpa using heq
    simp at h

theorem literalBlock?_append (hs : hasTriple '\'' s = false) (hc : ∀ c ∈ s, IsLineChar c)
    (hr : r.head? ≠ some '\'') :
    literalBlock? (s ++ (['\'', '\'', '\''] ++ r)) = some (s, r) := by
  induction s with
  | nil =>
    rcases closing?_append_triple (s := []) (by simp) hr with ⟨hfound, -⟩ | hnone
    · exact literalBlock?_of_closing? hfound
    · exact absurd hnone (by simp [closing?, after?])
  | cons c s ih =>
    obtain ⟨hs', htake⟩ := hasTriple_cons hs
    rw [List.forall_mem_cons] at hc
    rcases closing?_append_triple htake hr with ⟨hfound, -⟩ | hnone
    · exact literalBlock?_of_closing? hfound
    · rw [List.cons_append] at hnone ⊢
      rw [literalBlock?, hnone, ih hs' hc.2]
      simp only [hc.1.isBlockChar, if_true, Option.map_some]

/-! ## The line after the opening quotes -/

/-- The empty first line is the one that the reader drops. -/
theorem afterLineEnd_append_openingLine
    (h : '\n' ∉ s → ∀ c ∈ t.head?, c ≠ '\n' ∧ c ≠ '\r') :
    afterLineEnd (openingLine s ++ t) = t := by
  rw [openingLine]
  split
  · rfl
  · next hs =>
    rw [List.nil_append]
    cases t with
    | nil => rfl
    | cons c t =>
      obtain ⟨hnewline, hreturn⟩ := h (by simpa using hs) c rfl
      unfold afterLineEnd
      split <;> simp_all

theorem head?_blockEscaped (hs : '\n' ∉ s) (r : List Char) :
    ∀ c ∈ (blockEscaped q s ++ (['"', '"', '"'] ++ r)).head?, c ≠ '\n' ∧ c ≠ '\r' := by
  intro c hc
  cases s with
  | nil =>
    obtain rfl : '"' = c := by simpa [blockEscaped] using hc
    decide
  | cons d s =>
    rcases blockEscaped_cons_cases q d s with ⟨rfl, -, heq⟩ | ⟨-, -, hd, heq⟩ | ⟨e, -, heq⟩
    · obtain rfl : '"' = c := by simpa [heq] using hc
      decide
    · obtain rfl : d = c := by simpa [heq] using hc
      exact ⟨fun hline => hs (hline ▸ List.mem_cons_self), hd.ne_return⟩
    · obtain rfl : '\\' = c := by simpa [heq] using hc
      decide

theorem head?_literalBlock (hs : '\n' ∉ s) (hc : ∀ c ∈ s, IsLineChar c) (r : List Char) :
    ∀ c ∈ (s ++ (['\'', '\'', '\''] ++ r)).head?, c ≠ '\n' ∧ c ≠ '\r' := by
  intro c hhead
  cases s with
  | nil =>
    obtain rfl : '\'' = c := by simpa using hhead
    decide
  | cons d s =>
    obtain rfl : d = c := by simpa using hhead
    exact ⟨fun hline => hs (hline ▸ List.mem_cons_self), (hc d List.mem_cons_self).ne_return⟩

/-! ## All forms -/

theorem string?_of_basic? (h : s.take 2 ≠ ['"', '"']) : string? ('"' :: s) = basic? s := by
  unfold string?
  split <;> simp_all

theorem string?_of_literal? (h : s.take 2 ≠ ['\'', '\'']) : string? ('\'' :: s) = literal? s := by
  unfold string?
  split <;> simp_all

namespace StringForm

/-- The string can be written in the form. A form with escapes is good for every string. -/
def Fits : StringForm → List Char → Prop
  | basic, _ | basicBlock, _ => True
  | literal, s => '\'' ∉ s ∧ s.any isControl = false
  | literalBlock, s => hasTriple '\'' s = false ∧ ∀ c ∈ s, IsLineChar c

theorem fits_of (s : List Char) : (of s).Fits s := by
  rw [of]
  split
  · trivial
  split
  · next h => simpa [Fits, and_comm] using h
  split
  · trivial
  split
  · next h => simpa [Fits, IsLineChar, and_comm] using h
  split
  · trivial
  · trivial

/-- **A string is read back** from every form that it fits, if no quote follows it. -/
theorem string?_write {form : StringForm} (hs : form.Fits s) (hr : r.head? ≠ some '"')
    (hr' : r.head? ≠ some '\'') : string? (form.write s ++ r) = some (s, r) := by
  cases form with
  | basic =>
    have htwo : (s.flatMap escaped ++ '"' :: r).take 2 ≠ ['"', '"'] := by
      cases s with
      | nil => cases r <;> simp_all
      | cons c s =>
        rcases escaped_cases c with ⟨hself, hquote, -, -⟩ | ⟨e, hescaped, -⟩
        · simp [hself, hquote]
        · simp [hescaped]
    rw [write, List.cons_append, List.append_assoc, List.singleton_append,
      string?_of_basic? htwo, basic?_flatMap_escaped]
  | literal =>
    have htwo : (s ++ '\'' :: r).take 2 ≠ ['\'', '\''] := by
      cases s with
      | nil => cases r <;> simp_all
      | cons c s =>
        have hc : c ≠ '\'' := fun hc => hs.1 (hc ▸ List.mem_cons_self)
        simp [hc]
    rw [write, List.cons_append, List.append_assoc, List.singleton_append,
      string?_of_literal? htwo, literal?_append hs.1 hs.2]
  | basicBlock =>
    rw [write, List.append_assoc, List.append_assoc, List.append_assoc]
    show basicBlock? (afterLineEnd
      (openingLine s ++ (blockEscaped 0 s ++ (['"', '"', '"'] ++ r)))) = _
    rw [afterLineEnd_append_openingLine fun hline => head?_blockEscaped hline r,
      basicBlock?_blockEscaped 0 s hr]
  | literalBlock =>
    rw [write, List.append_assoc, List.append_assoc, List.append_assoc]
    show literalBlock? (afterLineEnd
      (openingLine s ++ (s ++ (['\'', '\'', '\''] ++ r)))) = _
    rw [afterLineEnd_append_openingLine fun hline => head?_literalBlock hline hs.2 r,
      literalBlock?_append hs.1 hs.2 hr']

/-- A string is written without carriage returns, whatever it holds. -/
theorem return_not_mem_write {form : StringForm} (hs : form.Fits s) : '\r' ∉ form.write s := by
  have hline : '\r' ∉ openingLine s := by
    rw [openingLine]
    split <;> decide
  cases form with
  | basic =>
    have hescaped : '\r' ∉ s.flatMap escaped := by
      rw [List.mem_flatMap]
      rintro ⟨c, -, hc⟩
      exact return_not_mem_escaped c hc
    simp [write, hescaped]
  | literal =>
    have hplain : '\r' ∉ s := fun hc => absurd (List.any_eq_false.1 hs.2 _ hc) (by decide)
    simp [write, hplain]
  | basicBlock => simp [write, hline, return_not_mem_blockEscaped]
  | literalBlock =>
    have hplain : '\r' ∉ s := fun hc => (hs.2 _ hc).ne_return rfl
    simp [write, hline, hplain]

end StringForm

theorem return_not_mem_writeString (s : List Char) : '\r' ∉ writeString s :=
  StringForm.return_not_mem_write (StringForm.fits_of s)

theorem string?_writeString (s : List Char) (hr : r.head? ≠ some '"')
    (hr' : r.head? ≠ some '\'') : string? (writeString s ++ r) = some (s, r) :=
  StringForm.string?_write (StringForm.fits_of s) hr hr'

end CommitStamp.Toml
