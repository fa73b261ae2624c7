import CommitStamp.Text.Lowercase
/-!
# Words in lower case

Which texts have a given word as their lower-case form. Of the letters of ASCII only two are the
lower-case form of another character, or part of it: the dotted capital I has an `i` in it, and the
Kelvin sign becomes a `k`. A word without them is the form of those texts alone that write it with
capital and small letters of ASCII (`lowercase_eq_iff`).
-/

namespace CommitStamp.Text

variable {c d : Char} {s w : List Char}

/-- A small letter of ASCII that is the lower-case form of its capital alone. -/
def IsPlainLetter (c : Char) : Prop :=
  c.isLower = true ∧ c ≠ 'i' ∧ c ≠ 'k'

instance : DecidablePred IsPlainLetter :=
  fun _ => inferInstanceAs (Decidable (_ ∧ _ ∧ _))

theorem IsPlainLetter.toNat_bounds (h : IsPlainLetter c) : 97 ≤ c.toNat ∧ c.toNat < 128 := by
  have hc := Bool.and_eq_true_iff.1 h.1
  exact ⟨of_decide_eq_true hc.1, Nat.lt_of_le_of_lt (of_decide_eq_true hc.2) (by decide)⟩

theorem not_isPlainLetter_of_le (h : 128 ≤ c.toNat) : ¬IsPlainLetter c :=
  fun hplain => absurd hplain.toNat_bounds.2 (Nat.not_lt_of_le h)

theorem not_isPlainLetter_ofNat {n : Nat} (h : 128 ≤ n) : ¬IsPlainLetter (Char.ofNat n) := by
  intro hplain
  by_cases hvalid : n.isValidChar
  · have hn : (Char.ofNat n).toNat = n := by
      rw [Char.ofNat, dif_pos hvalid]
      rfl
    have hbounds := hplain.toNat_bounds
    omega
  -- a number that is no code point stands for the character zero
  · rw [Char.ofNat, dif_neg hvalid] at hplain
    exact absurd hplain (by decide)

theorem toLower_of_le (h : 128 ≤ c.toNat) : c.toLower = c := by
  refine dif_neg fun hc => ?_
  have hle : c.toNat ≤ 90 := hc.2
  omega

/-- In ASCII, lower case is a matter of the capital letters. -/
theorem lowerChar_of_lt (h : c.toNat < 128) : lowerChar c = [c.toLower] := by
  have hall : ∀ n < 128, lowerChar (Char.ofNat n) = [(Char.ofNat n).toLower] := by decide +kernel
  have hc := hall c.toNat h
  rwa [Char.ofNat_toNat] at hc

/-- No run of the table outside of ASCII leads into it, that of the Kelvin sign apart. -/
theorem le_of_mem_lowerRuns {first last step : Nat} {distance : Int}
    (h : (first, last, step, distance) ∈ lowerRuns) (hlast : 128 ≤ last) :
    128 ≤ first + distance ∨ (first, last, step, distance) = (0x212a, 0x212a, 1, -8383) := by
  have hall : ∀ run ∈ lowerRuns, 128 ≤ run.2.1 →
      128 ≤ run.1 + run.2.2.2 ∨ run = (0x212a, 0x212a, 1, -8383) := by
    decide +kernel
  exact hall _ h hlast

/-- Outside of ASCII, no character has a plain letter in its lower-case form. -/
theorem not_isPlainLetter_of_mem_lowerChar (hc : 128 ≤ c.toNat) (hd : d ∈ lowerChar c) :
    ¬IsPlainLetter d := by
  unfold lowerChar at hd
  split at hd
  · rcases List.mem_cons.1 hd with rfl | hd
    · exact fun hplain => hplain.2.1 rfl
    · rw [List.mem_singleton.1 hd]
      exact not_isPlainLetter_of_le (by decide)
  dsimp only at hd
  split at hd
  · next first last step distance hrun =>
    have hmem := List.mem_of_find?_eq_some hrun
    have hrange := List.find?_some hrun
    simp only [Bool.and_eq_true, decide_eq_true_iff] at hrange
    obtain ⟨⟨hfirst, hlast⟩, -⟩ := hrange
    rw [List.mem_singleton.1 hd]
    rcases le_of_mem_lowerRuns hmem (by omega) with hle | hkelvin
    · exact not_isPlainLetter_ofNat (by omega)
    -- the run of the Kelvin sign has one member
    · simp only [Prod.mk.injEq] at hkelvin
      obtain ⟨rfl, rfl, -, rfl⟩ := hkelvin
      rw [Nat.le_antisymm hlast hfirst]
      decide
  · rw [List.mem_singleton.1 hd]
    exact not_isPlainLetter_of_le hc

theorem lowerChar_ne_nil (c : Char) : lowerChar c ≠ [] := by
  unfold lowerChar
  dsimp only
  repeat' split
  all_goals exact List.cons_ne_nil _ _

/-- Nor does its place in the text give it one. -/
theorem exists_lowercaseAfter_eq_cons (hc : 128 ≤ c.toNat) (before s : List Char) :
    ∃ d t, lowercaseAfter before (c :: s) = d :: t ∧ ¬IsPlainLetter d := by
  rw [lowercaseAfter]
  split
  · split
    · exact ⟨_, _, rfl, not_isPlainLetter_of_le (by decide)⟩
    · exact ⟨_, _, rfl, not_isPlainLetter_of_le (by decide)⟩
  · cases hlower : lowerChar c with
    | nil => exact absurd hlower (lowerChar_ne_nil c)
    | cons d rest =>
      exact ⟨d, _, rfl, not_isPlainLetter_of_mem_lowerChar hc (hlower ▸ List.mem_cons_self)⟩

theorem lowercaseAfter_eq_iff (hw : ∀ c ∈ w, IsPlainLetter c) (before : List Char) :
    lowercaseAfter before s = w ↔ s.map Char.toLower = w := by
  induction s generalizing before w with
  | nil => exact .rfl
  | cons c s ih =>
    by_cases hc : c.toNat < 128
    · have hsigma : c ≠ 'Σ' := by
        rintro rfl
        exact absurd hc (by decide)
      rw [lowercaseAfter, if_neg hsigma, lowerChar_of_lt hc, List.singleton_append, List.map_cons]
      cases w with
      | nil => exact iff_of_false (List.cons_ne_nil _ _) (List.cons_ne_nil _ _)
      | cons d w => rw [List.cons.injEq, List.cons.injEq, ih (List.forall_mem_cons.1 hw).2]
    · refine iff_of_false ?_ ?_
      · obtain ⟨d, t, hlower, hd⟩ := exists_lowercaseAfter_eq_cons (Nat.le_of_not_lt hc) before s
        rintro rfl
        exact hd (hw d (hlower ▸ List.mem_cons_self))
      · rintro rfl
        have hplain := hw c.toLower List.mem_cons_self
        rw [toLower_of_le (Nat.le_of_not_lt hc)] at hplain
        exact hc hplain.toNat_bounds.2

/-- **A word of plain letters** is the lower-case form of the texts that write it in capital and
small letters. -/
theorem lowercase_eq_iff (hw : ∀ c ∈ w, IsPlainLetter c) :
    lowercase s = w ↔ s.map Char.toLower = w :=
  lowercaseAfter_eq_iff hw []

end CommitStamp.Text
