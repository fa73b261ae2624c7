/-!
# Cutting at a character

`cutAt c s` is the text before the first `c` and the text after it; `cutAt_eq_some_iff` says exactly
when there are such parts, so they are unique. `splitAt` cuts at every occurrence.
-/

namespace CommitStamp.Text

/-- The text before the first `c`, and what follows that `c`. -/
def cutAt (c : Char) : List Char → Option (List Char × List Char)
  | [] => none
  | d :: s =>
    if d = c then some ([], s) else (cutAt c s).map fun (before, after) => (d :: before, after)

theorem cutAt_eq_some_iff {c : Char} {s before after : List Char} :
    cutAt c s = some (before, after) ↔ s = before ++ c :: after ∧ c ∉ before := by
  induction s generalizing before with
  | nil => simp [cutAt]
  | cons d s ih =>
    by_cases h : d = c
    · cases before <;> grind [cutAt]
    · cases before with
      | nil => simp [cutAt, h]
      | cons b before =>
        simp only [cutAt, h, if_false, Option.map_eq_some_iff, Prod.exists]
        constructor
        · rintro ⟨b', r', hc, heq⟩
          grind
        · rintro ⟨heq, hb⟩
          exact ⟨before, after, by grind, by grind⟩

theorem cutAt_eq_none_iff {c : Char} {s : List Char} : cutAt c s = none ↔ c ∉ s := by
  induction s with
  | nil => simp [cutAt]
  | cons d s ih =>
    by_cases h : d = c
    · simp [cutAt, h]
    · simp [cutAt, h, Option.map_eq_none_iff, ih, Ne.symm h]

theorem length_lt_of_cutAt {c : Char} {s before after : List Char}
    (h : cutAt c s = some (before, after)) : after.length < s.length := by
  rw [(cutAt_eq_some_iff.1 h).1, List.length_append, List.length_cons]
  omega

/-- The pieces of a text between the occurrences of `c`; there is one more piece than there are
occurrences. -/
def splitAt {α : Type} [DecidableEq α] (c : α) : List α → List (List α)
  | [] => [[]]
  | d :: s =>
    if d = c then [] :: splitAt c s
    else
      match splitAt c s with
      | [] => [[d]]
      | piece :: pieces => (d :: piece) :: pieces

/-- The pieces with `c` between them. -/
def joinWith {α : Type} (c : α) : List (List α) → List α
  | [] => []
  | [piece] => piece
  | piece :: pieces => piece ++ c :: joinWith c pieces

theorem splitAt_ne_nil {α : Type} [DecidableEq α] (c : α) (s : List α) : splitAt c s ≠ [] := by
  fun_induction splitAt <;> simp_all

theorem joinWith_splitAt {α : Type} [DecidableEq α] (c : α) (s : List α) :
    joinWith c (splitAt c s) = s := by
  induction s with
  | nil => simp [splitAt, joinWith]
  | cons d s ih =>
    have hne := splitAt_ne_nil c s
    by_cases h : d = c
    · subst h
      cases hs : splitAt d s with
      | nil => exact absurd hs hne
      | cons p ps => rw [hs] at ih; simp [splitAt, hs, joinWith, ih]
    · cases hs : splitAt c s with
      | nil => exact absurd hs hne
      | cons p ps =>
        rw [hs] at ih
        cases ps with
        | nil => simp_all [splitAt, joinWith]
        | cons q qs => simp_all [splitAt, joinWith]

theorem splitAt_of_not_mem {α : Type} [DecidableEq α] {c : α} {s : List α} (h : c ∉ s) :
    splitAt c s = [s] := by
  induction s with
  | nil => rfl
  | cons d s ih =>
    rw [List.mem_cons, not_or] at h
    rw [splitAt, if_neg (Ne.symm h.1), ih h.2]

theorem splitAt_append_cons {α : Type} [DecidableEq α] {c : α} {s : List α} (h : c ∉ s)
    (t : List α) : splitAt c (s ++ c :: t) = s :: splitAt c t := by
  induction s with
  | nil => rw [List.nil_append, splitAt, if_pos rfl]
  | cons d s ih =>
    rw [List.mem_cons, not_or] at h
    rw [List.cons_append, splitAt, if_neg (Ne.symm h.1), ih h.2]

/-- Pieces without the character are found again between its occurrences. -/
theorem splitAt_joinWith {α : Type} [DecidableEq α] {c : α} {pieces : List (List α)}
    (hne : pieces ≠ []) (h : ∀ piece ∈ pieces, c ∉ piece) :
    splitAt c (joinWith c pieces) = pieces := by
  fun_induction joinWith c pieces with
  | case1 => exact absurd rfl hne
  | case2 piece => exact splitAt_of_not_mem (h piece (List.mem_singleton.2 rfl))
  | case3 piece pieces hpieces ih =>
    obtain ⟨hpiece, hrest⟩ := List.forall_mem_cons.1 h
    rw [splitAt_append_cons hpiece, ih hpieces hrest]

end CommitStamp.Text
