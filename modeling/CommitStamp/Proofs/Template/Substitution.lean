import CommitStamp.Template.Render
/-!
# Substitution as one scan

`Template.substitute` works from closing brace to closing brace. Read from the left it is a scan:
an opening brace whose group is recognised gives way to the group's expansion, and every other
character is copied. `scan_induction` is the induction that goes with this reading.

A text is *balanced* when it leaves no group open. `substitute_append` says that a balanced text and
what follows it are substituted apart, and `Balanced.substitute` that the result is balanced again,
so a second substitution can take the parts apart as well.
-/

namespace CommitStamp.Template

open Text

variable {f : List Char → Option (List Char)} {s body rest t : List Char}

/-! ## The scan -/

@[simp] theorem substitute_nil : substitute f [] = [] := by
  rw [substitute]
  simp [cutAt]

/-- A text without a closing brace has no groups. -/
theorem substitute_of_no_closing (hs : '}' ∉ s) : substitute f s = s := by
  have hcut : cutAt '}' s = none := cutAt_eq_none_iff.2 hs
  rw [substitute]
  split
  · next h => rw [hcut] at h; exact absurd h (by simp)
  · rfl

/-- A text up to its first closing brace is substituted on its own. -/
theorem substitute_append_close (hb : '}' ∉ body) :
    substitute f (body ++ '}' :: rest)
      = (closeGroup? f body).getD (body ++ ['}']) ++ substitute f rest := by
  have hcut : cutAt '}' (body ++ '}' :: rest) = some (body, rest) :=
    cutAt_eq_some_iff.2 ⟨rfl, hb⟩
  rw [substitute]
  split
  · next h =>
    rw [hcut] at h
    obtain ⟨rfl, rfl⟩ := Prod.mk.inj (Option.some.inj h)
    rfl
  · next h => rw [hcut] at h; exact absurd h (by simp)

/-- A text either has no closing brace or is cut at its first one. -/
theorem exists_cut_or_not_mem (s : List Char) :
    (∃ body rest, s = body ++ '}' :: rest ∧ '}' ∉ body) ∨ '}' ∉ s := by
  cases h : cutAt '}' s with
  | none => exact .inr (cutAt_eq_none_iff.1 h)
  | some p => exact .inl ⟨p.1, p.2, cutAt_eq_some_iff.1 h⟩

/-- An opening brace whose group is not recognised is copied, and so is any other character. -/
theorem substitute_cons {c : Char}
    (h : c = '{' → ∀ body rest, s = body ++ '}' :: rest → '}' ∉ body → f body = none) :
    substitute f (c :: s) = c :: substitute f s := by
  by_cases hc : c = '}'
  · -- nothing is open, so the brace closes nothing
    subst hc
    have hnil : '}' ∉ ([] : List Char) := List.not_mem_nil
    rw [← List.nil_append ('}' :: s), substitute_append_close hnil, closeGroup?]
    rfl
  rcases exists_cut_or_not_mem s with ⟨body, rest, rfl, hb⟩ | hs
  · have hcb : '}' ∉ c :: body := by simp [Ne.symm hc, hb]
    have hnone : (if c = '{' then f body else none) = none := by
      split
      · next hopen => exact h hopen body rest rfl hb
      · rfl
    rw [← List.cons_append, substitute_append_close hcb, substitute_append_close hb, closeGroup?,
      hnone]
    cases closeGroup? f body <;> simp
  · rw [substitute_of_no_closing hs, substitute_of_no_closing (by simp [Ne.symm hc, hs])]

/-- A text without an opening brace stays as it is. -/
theorem substitute_of_no_opening (hs : '{' ∉ s) :
    substitute f s = s := by
  induction s with
  | nil => exact substitute_nil
  | cons c s ih =>
    obtain ⟨hc, hs⟩ : '{' ≠ c ∧ '{' ∉ s := by simpa using hs
    rw [substitute_cons (fun h => absurd h.symm hc), ih hs]

/-- A group that is recognised gives way to its expansion. -/
theorem substitute_group (hb : '}' ∉ body) (ht : f body = some t) :
    substitute f ('{' :: (body ++ '}' :: rest)) = t ++ substitute f rest := by
  have hob : '}' ∉ '{' :: body := by simp [hb]
  rw [← List.cons_append, substitute_append_close hob, closeGroup?, if_pos rfl, ht]
  rfl

/-- Induction along the scan: a text is empty, starts with a recognised group, or starts with a
character that is copied. -/
theorem scan_induction (f : List Char → Option (List Char)) {motive : List Char → Prop}
    (nil : motive [])
    (group : ∀ body t rest, '}' ∉ body → f body = some t → motive rest →
      motive ('{' :: (body ++ '}' :: rest)))
    (copy : ∀ c s, (c = '{' → ∀ body rest, s = body ++ '}' :: rest → '}' ∉ body →
      f body = none) → motive s → motive (c :: s))
    (s : List Char) : motive s := by
  induction hn : s.length using Nat.strongRecOn generalizing s with
  | ind n ih =>
    subst hn
    match s with
    | [] => exact nil
    | c :: s =>
      by_cases h : ∃ body rest t, c = '{' ∧ s = body ++ '}' :: rest ∧ '}' ∉ body ∧
          f body = some t
      · obtain ⟨body, rest, t, rfl, rfl, hb, ht⟩ := h
        refine group body t rest hb ht (ih rest.length ?_ rest rfl)
        simp only [List.length_cons, List.length_append]
        omega
      · refine copy c s ?_ (ih s.length (by simp) s rfl)
        intro hc body rest hs hb
        cases ht : f body with
        | none => rfl
        | some t => exact absurd ⟨body, rest, t, hc, hs, hb, ht⟩ h

/-! ## Open groups

`openAfter n s` counts the groups that are open after `s` when `n` are open before it. A closing
brace with nothing to close has no effect.
-/

/-- The number of groups that are open after a text. -/
def openAfter : Nat → List Char → Nat
  | n, [] => n
  | n, c :: s => openAfter (if c = '{' then n + 1 else if c = '}' then n - 1 else n) s

theorem openAfter_append (n : Nat) (s t : List Char) :
    openAfter n (s ++ t) = openAfter (openAfter n s) t := by
  induction s generalizing n with
  | nil => rfl
  | cons c s ih => exact ih _

theorem openAfter_mono {m n : Nat} (h : m ≤ n) (s : List Char) :
    openAfter m s ≤ openAfter n s := by
  induction s generalizing m n with
  | nil => exact h
  | cons c s ih =>
    refine ih ?_
    split
    · omega
    · split <;> omega

/-- Of the groups that are open before a text, no more than that many are open after it. -/
theorem openAfter_add_le (m n : Nat) (s : List Char) :
    openAfter (m + n) s ≤ m + openAfter n s := by
  induction s generalizing n with
  | nil => exact Nat.le_refl _
  | cons c s ih =>
    refine Nat.le_trans (openAfter_mono ?_ s) (ih _)
    split
    · omega
    · split <;> omega

theorem openAfter_le (n : Nat) (s : List Char) : openAfter n s ≤ n + s.count '{' := by
  induction s generalizing n with
  | nil => simp [openAfter]
  | cons c s ih =>
    refine Nat.le_trans (ih _) ?_
    rw [List.count_cons]
    by_cases hc : c = '{'
    · simp [hc]
      omega
    · simp only [hc, if_false, beq_iff_eq]
      split <;> omega

theorem openAfter_of_not_mem (n : Nat) (hs : '}' ∉ s) : openAfter n s = n + s.count '{' := by
  induction s generalizing n with
  | nil => simp [openAfter]
  | cons c s ih =>
    obtain ⟨hc, hs⟩ : c ≠ '}' ∧ '}' ∉ s := by simpa [eq_comm] using hs
    rw [openAfter, ih _ hs, List.count_cons]
    by_cases ho : c = '{'
    · simp [ho]
      omega
    · simp [ho, hc]

/-- A whole group, body included, opens as many groups as its body does. -/
theorem openAfter_group (n : Nat) (hb : '}' ∉ body) :
    openAfter n ('{' :: (body ++ '}' :: rest)) = openAfter (n + body.count '{') rest := by
  rw [openAfter, if_pos rfl, openAfter_append, openAfter_of_not_mem _ hb, openAfter,
    if_neg (by decide), if_pos rfl]
  congr 1
  omega

/-- A text that leaves no group open. -/
def Balanced (s : List Char) : Prop :=
  openAfter 0 s = 0

theorem balanced_of_not_mem (hs : '{' ∉ s) : Balanced s := by
  have hle := openAfter_le 0 s
  rw [List.count_eq_zero.2 hs] at hle
  exact Nat.le_zero.1 hle

theorem Balanced.append (hs : Balanced s) (ht : Balanced t) : Balanced (s ++ t) := by
  rw [Balanced, openAfter_append, hs, ht]

/-- What stands behind any beginning of a balanced text is balanced as well. -/
theorem Balanced.right (h : Balanced (s ++ t)) : Balanced t := by
  rw [Balanced, openAfter_append] at h
  exact Nat.le_zero.1 (h ▸ openAfter_mono (Nat.zero_le _) t)

/-- A balanced text in braces is balanced. -/
theorem Balanced.inBraces (h : Balanced s) : Balanced ('{' :: (s ++ ['}'])) := by
  have hle : openAfter (0 + 1) s ≤ 1 + openAfter 0 s := openAfter_add_le 1 0 s
  rw [h] at hle
  rw [Balanced, openAfter, if_pos rfl, openAfter_append, openAfter, if_neg (by decide), if_pos rfl,
    openAfter]
  omega

/-- A group that opens in a balanced text also closes in it. -/
theorem Balanced.exists_close (h : Balanced ('{' :: s)) :
    ∃ body rest, s = body ++ '}' :: rest ∧ '}' ∉ body := by
  rcases exists_cut_or_not_mem s with hcut | hs
  · exact hcut
  · rw [Balanced, openAfter, if_pos rfl, openAfter_of_not_mem _ hs] at h
    omega

/-! ## Substitution in parts -/

/-- **Parts are substituted apart.** A balanced text and what follows it do not mix. -/
theorem substitute_append (hs : Balanced s) (t : List Char) :
    substitute f (s ++ t) = substitute f s ++ substitute f t := by
  induction s using scan_induction f with
  | nil => simp
  | group body u rest hb hu ih =>
    have hrest : Balanced rest := by
      refine Balanced.right (s := '{' :: (body ++ ['}'])) ?_
      simpa using hs
    rw [substitute_group hb hu, List.cons_append, List.append_assoc, List.cons_append,
      substitute_group hb hu, ih hrest, List.append_assoc]
  | copy c s hskip ih =>
    have htail : Balanced s := Balanced.right (s := [c]) hs
    rw [substitute_cons hskip, List.cons_append, substitute_cons, ih htail, List.cons_append]
    rintro rfl body rest hcut hb
    -- the group that closes in `s ++ t` already closes in `s`
    obtain ⟨body', rest', rfl, hb'⟩ := hs.exists_close
    have heq : cutAt '}' (body' ++ '}' :: (rest' ++ t)) = some (body, rest) :=
      cutAt_eq_some_iff.2 ⟨by simpa using hcut, hb⟩
    rw [cutAt_eq_some_iff.2 ⟨rfl, hb'⟩] at heq
    obtain ⟨rfl, -⟩ := Prod.mk.inj (Option.some.inj heq)
    exact hskip rfl body' rest' rfl hb'

/-- No expansion opens more groups than the body that it replaces. -/
def OpensNoMore (f : List Char → Option (List Char)) : Prop :=
  ∀ body t, '}' ∉ body → f body = some t → t.count '{' ≤ body.count '{'

/-- Substitution leaves at most as many groups open as there were. -/
theorem openAfter_substitute_le (h : OpensNoMore f) (n : Nat) (s : List Char) :
    openAfter n (substitute f s) ≤ openAfter n s := by
  induction s using scan_induction f generalizing n with
  | nil => simp
  | group body t rest hb ht ih =>
    rw [substitute_group hb ht, openAfter_append, openAfter_group n hb]
    refine Nat.le_trans (ih _) (openAfter_mono ?_ rest)
    have hle := openAfter_le n t
    have hcount := h body t hb ht
    omega
  | copy c s hskip ih =>
    rw [substitute_cons hskip]
    exact ih _

theorem Balanced.substitute (h : OpensNoMore f) (hs : Balanced s) :
    Balanced (substitute f s) := by
  have hle := openAfter_substitute_le h 0 s
  rw [hs] at hle
  exact Nat.le_zero.1 hle

end CommitStamp.Template
