import CommitStamp.Config.Writer
import CommitStamp.Proofs.Text.Numeral
import CommitStamp.Proofs.Toml.Strings
import CommitStamp.Toml.Document
/-!
# Values are read as they were written

`Writes text v` says that a text is read as the value `v` wherever a line ends after it. Of the four
kinds of value that a configuration has, each is written by such a text: strings
(`writes_writeString`), lists of them (`writes_writeList`), truth values (`writes_writeFlag`) and
numbers of milliseconds (`writes_decimal`).
-/

namespace CommitStamp.Toml

open Text

variable {c : Char} {s r text : List Char} {v : Value} {m n depth : Nat}

/-- The text is read as the value at the end of a line, by a reader of documents that are longer. It
can be told from the blanks before it, and a document may hold it. -/
structure Writes (text : List Char) (v : Value) : Prop where
  value?_append : ∀ n r, text.length < n →
    value? n nestingLimit (text ++ '\n' :: r) = some (v, '\n' :: r)
  head_not_blank : ∀ c ∈ text.head?, isBlank c = false
  return_not_mem : '\r' ∉ text

/-! ## Strings -/

theorem value?_quote (n depth : Nat) (s : List Char) :
    value? n depth ('"' :: s) = (string? ('"' :: s)).map fun (t, r) => (.string t, r) := by
  cases depth <;> rw [value?]

theorem value?_apostrophe (n depth : Nat) (s : List Char) :
    value? n depth ('\'' :: s) = (string? ('\'' :: s)).map fun (t, r) => (.string t, r) := by
  cases depth <;> rw [value?]

theorem exists_writeString (s : List Char) :
    ∃ quote t, writeString s = quote :: t ∧ (quote = '"' ∨ quote = '\'') := by
  rw [writeString]
  cases StringForm.of s with
  | basic => exact ⟨_, _, rfl, .inl rfl⟩
  | literal => exact ⟨_, _, rfl, .inr rfl⟩
  | basicBlock => exact ⟨_, _, rfl, .inl rfl⟩
  | literalBlock => exact ⟨_, _, rfl, .inr rfl⟩

theorem value?_writeString (n depth : Nat) (s : List Char) (hr : r.head? ≠ some '"')
    (hr' : r.head? ≠ some '\'') :
    value? n depth (writeString s ++ r) = some (.string s, r) := by
  have hread := string?_writeString s hr hr'
  obtain ⟨quote, t, heq, hquote⟩ := exists_writeString s
  rw [heq, List.cons_append] at hread ⊢
  rcases hquote with rfl | rfl
  · rw [value?_quote, hread]
    rfl
  · rw [value?_apostrophe, hread]
    rfl

theorem writes_writeString (s : List Char) : Writes (writeString s) (.string s) where
  value?_append n r _ := value?_writeString n nestingLimit s (by simp) (by simp)
  head_not_blank := by
    obtain ⟨quote, t, heq, hquote⟩ := exists_writeString s
    intro c hc
    obtain rfl : quote = c := by simpa [heq] using hc
    rcases hquote with rfl | rfl <;> rfl
  return_not_mem := return_not_mem_writeString s

/-! ## Lists -/

theorem skip?_of_start (hc : c ∉ ['#', ' ', '\t', '\r', '\n']) :
    skip? false (c :: s) = some (c :: s) := by
  simp only [List.mem_cons, List.not_mem_nil, or_false, not_or] at hc
  simp [skip?, isBlank, hc]

@[simp] theorem skip?_newline (s : List Char) : skip? false ('\n' :: s) = skip? false s := rfl

@[simp] theorem skip?_space (s : List Char) : skip? false (' ' :: s) = skip? false s := rfl

/-- Items do not depend on blanks and line ends before them. -/
theorem items?_congr {α : Type} {item? : List Char → Option (α × List Char)} {close : Char}
    {t : List Char} (h : skip? false s = skip? false t) (m : Nat) :
    items? item? close m s = items? item? close m t := by
  cases m with
  | zero => rfl
  | succ m => simp only [items?, h]

/-- A string in a list, and what comes after it: a comma with further items, or the end. -/
theorem items?_writeString (s : List Char) (hr : r.head? ≠ some '"') (hr' : r.head? ≠ some '\'') :
    items? (value? n depth) ']' (m + 1) (writeString s ++ r) = (do
      match ← skip? false r with
      | ',' :: r => (items? (value? n depth) ']' m r).map fun (vs, r) => (.string s :: vs, r)
      | d :: r => if d = ']' then some ([.string s], r) else none
      | [] => none) := by
  have hvalue := value?_writeString n depth s hr hr'
  obtain ⟨quote, t, heq, hquote⟩ := exists_writeString s
  rw [heq, List.cons_append] at hvalue ⊢
  have hskip : skip? false (quote :: (t ++ r)) = some (quote :: (t ++ r)) :=
    skip?_of_start (by rcases hquote with rfl | rfl <;> decide)
  have hne : quote ≠ ']' := by rcases hquote with rfl | rfl <;> decide
  simp only [items?, hskip, Option.bind_eq_bind, Option.bind_some, if_neg hne, hvalue]
  refine Option.bind_congr fun r _ => ?_
  split
  · simp only [Option.pure_def, Option.map_eq_bind]
    rfl
  · simp_all
  · rfl

/-- A list on lines is read line by line. -/
theorem items?_listLines (all : List String) (r : List Char) (h : all.length < m) :
    items? (value? n depth) ']' m (all.flatMap Config.listLine ++ ']' :: r)
      = some (all.map fun s => .string s.toList, r) := by
  induction all generalizing m with
  | nil =>
    obtain ⟨m, rfl⟩ := Nat.exists_eq_succ_of_ne_zero (Nat.ne_of_gt h)
    rfl
  | cons s all ih =>
    obtain ⟨m, rfl⟩ := Nat.exists_eq_succ_of_ne_zero (Nat.ne_of_gt (Nat.zero_lt_of_lt h))
    have hskip : skip? false ((s :: all).flatMap Config.listLine ++ ']' :: r)
        = skip? false (writeString s.toList ++
            ',' :: '\n' :: (all.flatMap Config.listLine ++ ']' :: r)) := by
      simp [Config.listLine, List.flatMap_cons]
    have hrest := ih (m := m) (Nat.lt_of_succ_lt_succ h)
    -- the line end after the comma stands before the next item
    rw [← items?_congr (skip?_newline _)] at hrest
    rw [items?_congr hskip, items?_writeString _ (by simp) (by simp), skip?_of_start (by decide)]
    simp only [Option.bind_eq_bind, Option.bind_some, hrest, Option.map_some, List.map_cons]

theorem value?_bracket (n depth : Nat) (s : List Char) :
    value? n (depth + 1) ('[' :: s)
      = (items? (value? n depth) ']' n s).map fun (vs, r) => (.array vs, r) := by
  rw [value?]

theorem length_le_flatMap_listLine (all : List String) :
    all.length ≤ (all.flatMap Config.listLine).length := by
  induction all with
  | nil => exact Nat.le_refl 0
  | cons s all ih =>
    rw [List.flatMap_cons, List.length_append, List.length_cons, Config.listLine]
    simp only [List.length_append, String.length_toList]
    have hspaces : "    ".length = 4 := rfl
    omega

theorem return_not_mem_listLine (s : String) : '\r' ∉ Config.listLine s := by
  simp [Config.listLine, return_not_mem_writeString]

theorem writes_writeList (all : List String) :
    Writes (Config.writeList all) (.array (all.map fun s => .string s.toList)) where
  value?_append n r hn := by
    match all, hn with
    | [], hn =>
      obtain ⟨n, rfl⟩ := Nat.exists_eq_succ_of_ne_zero (Nat.ne_of_gt (Nat.zero_lt_of_lt hn))
      show value? (n + 1) (79 + 1) ('[' :: (']' :: '\n' :: r)) = _
      rw [value?_bracket]
      rfl
    | [s], hn =>
      obtain ⟨n, rfl⟩ := Nat.exists_eq_succ_of_ne_zero (Nat.ne_of_gt (Nat.zero_lt_of_lt hn))
      show value? (n + 1) (79 + 1) ('[' :: (writeString s.toList ++ [']'] ++ '\n' :: r)) = _
      rw [value?_bracket, List.append_assoc, items?_writeString _ (by simp) (by simp)]
      rfl
    | s :: t :: all, hn =>
      show value? n (79 + 1) ('[' :: ('\n' :: ((s :: t :: all).flatMap Config.listLine ++ [']'])
        ++ '\n' :: r)) = _
      have hlen : (s :: t :: all).length < n := by
        have hle := length_le_flatMap_listLine (s :: t :: all)
        simp only [Config.writeList, List.length_append] at hn
        omega
      rw [value?_bracket, List.cons_append, List.append_assoc, items?_congr (skip?_newline _),
        List.singleton_append, items?_listLines _ _ hlen]
      rfl
  head_not_blank := by
    have hhead : (Config.writeList all).head? = some '[' := by
      unfold Config.writeList
      split <;> rfl
    intro c hc
    obtain rfl : '[' = c := by simpa [hhead] using hc
    rfl
  return_not_mem := by
    unfold Config.writeList
    split
    · decide
    · simp [return_not_mem_writeString]
    · simp [return_not_mem_listLine]

/-! ## Scalars -/

theorem value?_of_scalar? (hc : c ∉ ['"', '\'', '[', '{']) :
    value? n depth (c :: s) = scalar? (c :: s) := by
  simp only [List.mem_cons, List.not_mem_nil, or_false, not_or] at hc
  cases depth <;> rw [value?] <;> simp_all

theorem scalarRun_append (hs : ∀ c ∈ s, isScalarChar c = true) (r : List Char) :
    scalarRun (s ++ '\n' :: r) = s := by
  have htake : (s ++ '\n' :: r).takeWhile isScalarChar = s := by
    rw [List.takeWhile_append_of_pos hs, List.takeWhile_cons_of_neg (by decide), List.append_nil]
  simp only [scalarRun, htake, List.drop_left]
  rfl

theorem isScalarChar_iff : isScalarChar c = true ↔ c ∉ "=,[]\x7b\x7d \t#\r\n".toList := by
  simp [isScalarChar]

/-- A scalar is read up to the end of its line. -/
theorem writes_of_ofScalar? (hne : s ≠ []) (hall : s.all isScalarChar = true)
    (hquote : '"' ∉ s) (hquote' : '\'' ∉ s) (hv : ofScalar? s = some v) : Writes s v where
  value?_append n r _ := by
    have hs := List.all_eq_true.1 hall
    have hscalar : scalar? (s ++ '\n' :: r) = some (v, '\n' :: r) := by
      rw [scalar?, scalarRun_append hs, hv, List.drop_left]
      rfl
    cases s with
    | nil => exact absurd rfl hne
    | cons c s =>
      have hc := isScalarChar_iff.1 (hs c List.mem_cons_self)
      have hstart : c ≠ '"' ∧ c ≠ '\'' := by
        constructor <;> (rintro rfl; simp_all)
      rw [List.cons_append, value?_of_scalar?, ← List.cons_append, hscalar]
      simp_all
  head_not_blank c hc := by
    have hchar := isScalarChar_iff.1 (List.all_eq_true.1 hall c (List.mem_of_mem_head? hc))
    simp_all [isBlank]
  return_not_mem hmem := absurd (List.all_eq_true.1 hall '\r' hmem) (by decide)

theorem writes_writeFlag (b : Bool) : Writes (Config.writeFlag b) (.boolean b) := by
  cases b with
  | true => exact writes_of_ofScalar? (by decide) (by decide) (by decide) (by decide) (if_pos rfl)
  | false =>
    exact writes_of_ofScalar? (by decide) (by decide) (by decide) (by decide)
      ((if_neg (by decide)).trans (if_pos rfl))

/-! ## Numbers -/

theorem isScalarChar_of_isDigit (h : isDigit c = true) : isScalarChar c = true := by
  rw [isScalarChar_iff]
  intro hmem
  have hnone : "=,[]\x7b\x7d \t#\r\n".toList.any isDigit = false := by decide
  exact List.any_eq_false.1 hnone c hmem h

theorem after?_of_digits {d : Char} (hs : ∀ c ∈ s, isDigit c = true) (hd : isDigit d = false) :
    after? [d] s = none := by
  cases s with
  | nil => rfl
  | cons c s => exact if_neg (ne_of_isDigit (hs c List.mem_cons_self) hd)

theorem suffix_of_twoDigits? {t : List Char} (h : twoDigits? s = some (m, t)) : t <:+ s := by
  unfold twoDigits? at h
  split at h
  · next a b s =>
    split at h
    · obtain ⟨-, rfl⟩ := Prod.mk.inj (Option.some.inj h)
      exact ⟨[a, b], rfl⟩
    · exact absurd h (by simp)
  · exact absurd h (by simp)

theorem afterDate?_of_digits (hs : ∀ c ∈ s, isDigit c = true) : afterDate? s = none := by
  rw [Option.eq_none_iff_forall_not_mem]
  intro rest hrest
  simp only [afterDate?, Option.mem_def, Option.bind_eq_bind, Option.bind_eq_some_iff] at hrest
  obtain ⟨⟨_, t⟩, ht, ⟨_, u⟩, hu, v, hv, -⟩ := hrest
  have hsuffix : u <:+ s := (suffix_of_twoDigits? hu).trans (suffix_of_twoDigits? ht)
  have hnone := after?_of_digits (fun c hc => hs c (hsuffix.subset hc)) (d := '-') (by decide)
  exact absurd (hnone.symm.trans hv) (by simp)

theorem afterTime?_of_digits (hs : ∀ c ∈ s, isDigit c = true) : afterTime? s = none := by
  rw [Option.eq_none_iff_forall_not_mem]
  intro rest hrest
  simp only [afterTime?, Option.mem_def, Option.bind_eq_bind, Option.bind_eq_some_iff] at hrest
  obtain ⟨⟨_, t⟩, ht, v, hv, -⟩ := hrest
  have hsuffix : t <:+ s := suffix_of_twoDigits? ht
  have hnone := after?_of_digits (fun c hc => hs c (hsuffix.subset hc)) (d := ':') (by decide)
  exact absurd (hnone.symm.trans hv) (by simp)

theorem underscoresFit_of_not_mem {p : Char → Bool} (hs : '_' ∉ s) (after : Bool) :
    underscoresFit p after s = true := by
  induction s generalizing after with
  | nil => rfl
  | cons c s ih =>
    rw [List.mem_cons, not_or] at hs
    rw [underscoresFit, if_neg (Ne.symm hs.1), ih hs.2]

/-- Digits without a zero before them are an integer in decimal. -/
theorem decimalInteger?_of_digits (hne : s ≠ []) (hs : ∀ c ∈ s, isDigit c = true)
    (hzero : s.head? = some '0' → s = ['0']) :
    decimalInteger? s = some (integerValue 10 none s) := by
  have hminus : '-' ∉ s := fun hmem => absurd (hs _ hmem) (by decide)
  have hplus : '+' ∉ s := fun hmem => absurd (hs _ hmem) (by decide)
  have hscore : '_' ∉ s := fun hmem => absurd (hs _ hmem) (by decide)
  have hunsigned : unsigned s = (none, s) := by
    unfold unsigned
    split
    · exact absurd List.mem_cons_self hminus
    · exact absurd List.mem_cons_self hplus
    · rfl
  have hdrop : s.dropWhile isDigit = [] := by
    rw [← List.append_nil s, List.dropWhile_append_of_pos hs]
    rfl
  have hplain : withoutUnderscores s = s := by
    rw [withoutUnderscores, List.filter_eq_self]
    intro c hc
    exact decide_eq_true (ne_of_isDigit (hs c hc) (by decide))
  simp only [decimalInteger?, hunsigned, hdrop, underscoresFit_of_not_mem hscore, hplain,
    List.all_eq_true.2 hs]
  simpa [hne] using hzero

theorem ofScalar?_of_digits (hne : s ≠ []) (hs : ∀ c ∈ s, isDigit c = true)
    (hzero : s.head? = some '0' → s = ['0']) (hword : isWord (ofDecimal s) = true) :
    ofScalar? s = some (.integer (ofDecimal s)) := by
  have hletter : ∀ {d}, isDigit d = false → d ∉ s := fun hd hmem => by
    rw [hs _ hmem] at hd
    exact absurd hd (by simp)
  have htrue : s ≠ "true".toList := by
    rintro rfl
    exact hletter (d := 't') (by decide) (by decide)
  have hfalse : s ≠ "false".toList := by
    rintro rfl
    exact hletter (d := 'f') (by decide) (by decide)
  have hdate : isDate s = false := by
    rw [isDate, afterDate?_of_digits hs, afterTime?_of_digits hs]
    rfl
  have hinteger : integer? s = decimalInteger? s := by
    unfold integer?
    split
    · exact absurd (by simp) (hletter (d := 'x') (by decide))
    · exact absurd (by simp) (hletter (d := 'o') (by decide))
    · exact absurd (by simp) (hletter (d := 'b') (by decide))
    · rfl
  rw [ofScalar?, if_neg htrue, if_neg hfalse, hdate, hinteger,
    decimalInteger?_of_digits hne hs hzero, integerValue]
  simp [ofDigits_ten hs, signed, hne, hword]

/-- A number of 64 bits is written without zeros before it. -/
theorem writes_decimal (n : UInt64) : Writes (decimal 1 n.toNat) (.integer n.toNat) := by
  have hdigits : ∀ c ∈ decimal 1 n.toNat, isDigit c = true := fun _ => isDigit_of_mem_decimal
  have hword : isWord (ofDecimal (decimal 1 n.toNat)) = true := by
    have hlt : n.toNat < 2 ^ 64 := n.toNat_lt
    rw [ofDecimal_decimal, isWord, Bool.and_eq_true, decide_eq_true_iff, decide_eq_true_iff]
    omega
  have hscalar := ofScalar?_of_digits (decimal_ne_nil 1 n.toNat) hdigits
    (decimal_one_head n.toNat) hword
  rw [ofDecimal_decimal] at hscalar
  refine writes_of_ofScalar? (decimal_ne_nil 1 n.toNat)
    (List.all_eq_true.2 fun c hc => isScalarChar_of_isDigit (hdigits c hc)) ?_ ?_ hscalar
  · exact fun hmem => absurd (hdigits _ hmem) (by decide)
  · exact fun hmem => absurd (hdigits _ hmem) (by decide)

end CommitStamp.Toml
