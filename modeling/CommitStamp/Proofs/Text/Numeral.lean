import CommitStamp.Text.Numeral
import Mathlib.Algebra.Group.Nat.Defs
import Mathlib.Tactic.Ring
/-!
# Numerals as digits and as numbers

Writing a number in decimal and reading a run of digits are inverse to each other on runs of a given
length: `ofDecimal_decimal` for the number, `decimal_ofDecimal` for the run. The second follows from
the first, because runs of one length with the same value are the same (`eq_of_ofDecimal_eq`).
-/

namespace CommitStamp.Text

variable {c : Char} {s t : List Char} {width n : Nat}

/-! ## Digits -/

theorem toNat_of_isDigit (h : isDigit c = true) : 48 ≤ c.toNat ∧ c.toNat ≤ 57 := by
  rw [isDigit, Bool.and_eq_true, decide_eq_true_iff, decide_eq_true_iff] at h
  exact ⟨UInt32.le_iff_toNat_le.1 h.1, UInt32.le_iff_toNat_le.1 h.2⟩

/-- A digit is no character that comes before or after the digits. -/
theorem ne_of_isDigit {d : Char} (h : isDigit c = true) (hd : isDigit d = false) : c ≠ d := by
  rintro rfl
  rw [h] at hd
  exact absurd hd (by simp)

/-! ## Runs of digits -/

theorem decimal_eq_append (width n : Nat) :
    decimal width n
      = List.replicate (width - (Nat.toDigits 10 n).length) '0' ++ Nat.toDigits 10 n :=
  rfl

theorem isDigit_of_mem_decimal (hc : c ∈ decimal width n) : isDigit c = true := by
  rw [decimal_eq_append, List.mem_append] at hc
  rcases hc with hc | hc
  · rw [List.eq_of_mem_replicate hc]
    decide
  · exact Nat.isDigit_of_mem_toDigits (by decide) (by decide) hc

theorem decimal_ne_nil (width n : Nat) : decimal width n ≠ [] := by
  rw [decimal_eq_append]
  exact List.append_ne_nil_of_right_ne_nil _ Nat.toDigits_ne_nil

/-- A number that fits the width takes no more than it. -/
theorem length_leftpad_toDigits {b : Nat} (hb : 1 < b) (hwidth : 0 < width) (h : n < b ^ width) :
    ((Nat.toDigits b n).leftpad width '0').length = width := by
  have hlen : (Nat.toDigits b n).length ≤ width := (Nat.length_toDigits_le_iff hb hwidth).2 h
  rw [List.leftpad, List.length_append, List.length_replicate]
  omega

theorem length_decimal (hwidth : 0 < width) (h : n < 10 ^ width) :
    (decimal width n).length = width :=
  length_leftpad_toDigits (by decide) hwidth h

/-- On one digit at least, a number is written without zeros before it. -/
theorem decimal_one (n : Nat) : decimal 1 n = Nat.toDigits 10 n := by
  have hpos : 0 < (Nat.toDigits 10 n).length := Nat.length_toDigits_pos
  rw [decimal_eq_append, Nat.sub_eq_zero_of_le hpos]
  rfl

/-- A number other than zero is written without a zero before its first digit. -/
theorem head?_toDigits_ne {b : Nat} (hb : 1 < b) (hb' : b ≤ 16) (hn : n ≠ 0) :
    (Nat.toDigits b n).head? ≠ some '0' := by
  have hdigit : ∀ m < 16, Nat.digitChar m = '0' → m = 0 := by decide
  induction n using Nat.strongRecOn with
  | ind n ih =>
    by_cases hlt : n < b
    · rw [Nat.toDigits_of_lt_base hlt]
      intro h
      exact hn (hdigit n (by omega) (Option.some.inj h))
    · -- the first digit is the first digit of the quotient, which is not zero
      have hle : b ≤ n := Nat.le_of_not_lt hlt
      have hquotient : n / b ≠ 0 := Nat.ne_of_gt (Nat.div_pos hle (by omega))
      have hless : n / b < n := Nat.div_lt_self (by omega) hb
      intro h
      apply ih (n / b) hless hquotient
      rwa [Nat.toDigits_of_base_le hb hle, List.head?_append,
        List.head?_eq_some_head Nat.toDigits_ne_nil, Option.some_or,
        ← List.head?_eq_some_head] at h

/-- Only zero starts with a zero. -/
theorem decimal_one_head (n : Nat) (h : (decimal 1 n).head? = some '0') : decimal 1 n = ['0'] := by
  rw [decimal_one] at h ⊢
  by_cases hn : n = 0
  · rw [hn]
    rfl
  · exact absurd h (head?_toDigits_ne (by decide) (by decide) hn)

/-! ## Values in any base -/

/-- What comes before some digits counts as many times as there are numbers of that many digits. -/
theorem foldl_digits (b n : Nat) (s : List Char) :
    s.foldl (fun n c => b * n + digitValue c) n = b ^ s.length * n + ofDigits b s := by
  induction s generalizing n with
  | nil => simp [ofDigits]
  | cons c s ih =>
    have hcons : ofDigits b (c :: s)
        = s.foldl (fun n c => b * n + digitValue c) (b * 0 + digitValue c) := rfl
    rw [hcons, List.foldl_cons, ih, ih, List.length_cons, Nat.pow_succ]
    ring

theorem ofDigits_cons (b : Nat) (c : Char) (s : List Char) :
    ofDigits b (c :: s) = b ^ s.length * digitValue c + ofDigits b s := by
  rw [ofDigits, List.foldl_cons, foldl_digits, Nat.mul_zero, Nat.zero_add]

/-- Digits of a base write a number that fits their count. -/
theorem ofDigits_lt {b : Nat} (hs : ∀ c ∈ s, digitValue c < b) : ofDigits b s < b ^ s.length := by
  induction s with
  | nil => exact Nat.one_pos
  | cons c s ih =>
    rw [List.forall_mem_cons] at hs
    calc ofDigits b (c :: s)
        = b ^ s.length * digitValue c + ofDigits b s := ofDigits_cons b c s
      _ < b ^ s.length * digitValue c + b ^ s.length := Nat.add_lt_add_left (ih hs.2) _
      _ = b ^ s.length * (digitValue c + 1) := (Nat.mul_succ _ _).symm
      _ ≤ b ^ s.length * b := Nat.mul_le_mul_left _ hs.1
      _ = b ^ (c :: s).length := (Nat.pow_succ _ _).symm

theorem ofDigits_append_singleton (b : Nat) (s : List Char) (c : Char) :
    ofDigits b (s ++ [c]) = b * ofDigits b s + digitValue c := by
  rw [ofDigits, ofDigits, List.foldl_append]
  rfl

/-- Zeros before a number do not change it. -/
theorem ofDigits_replicate_append (b k : Nat) (s : List Char) :
    ofDigits b (List.replicate k '0' ++ s) = ofDigits b s := by
  induction k with
  | zero => rfl
  | succ k ih =>
    rw [← ih, List.replicate_succ, List.cons_append, ofDigits, ofDigits, List.foldl_cons,
      Nat.mul_zero]
    rfl

/-- The digits of a number write it. -/
theorem ofDigits_toDigits {b : Nat} (hb : 1 < b) (hb' : b ≤ 16) (n : Nat) :
    ofDigits b (Nat.toDigits b n) = n := by
  have hdigit : ∀ d < 16, digitValue (Nat.digitChar d) = d := by decide
  induction n using Nat.strongRecOn with
  | ind n ih =>
    by_cases hlt : n < b
    · rw [Nat.toDigits_of_lt_base hlt]
      show b * 0 + digitValue n.digitChar = n
      rw [hdigit n (by omega), Nat.mul_zero, Nat.zero_add]
    · -- all digits but the last are those of the quotient
      have hle : b ≤ n := Nat.le_of_not_lt hlt
      have hless : n / b < n := Nat.div_lt_self (by omega) hb
      have hlast : n % b < b := Nat.mod_lt n (by omega)
      rw [Nat.toDigits_of_base_le hb hle, ofDigits_append_singleton, ih (n / b) hless,
        hdigit (n % b) (by omega)]
      exact Nat.div_add_mod n b

/-! ## Decimal values -/

theorem ofDecimal_cons (c : Char) (s : List Char) :
    ofDecimal (c :: s) = 10 ^ s.length * (c.toNat - 48) + ofDecimal s := by
  rw [ofDecimal, Nat.ofDigitChars_cons, Nat.mul_zero, Nat.zero_add,
    Nat.ofDigitChars_eq_ofDigitChars_zero]
  rfl

theorem ofDecimal_decimal (width n : Nat) : ofDecimal (decimal width n) = n := by
  rw [ofDecimal, decimal_eq_append, Nat.ofDigitChars_append, Nat.ofDigitChars_replicate_zero,
    Nat.mul_zero]
  exact Nat.ofDigitChars_ten_toDigits

/-- The value of a run of digits is the same when it is taken in base ten. -/
theorem ofDigits_ten (hs : ∀ c ∈ s, isDigit c = true) : ofDigits 10 s = ofDecimal s := by
  have hfrom : ∀ n, s.foldl (fun n c => 10 * n + digitValue c) n = Nat.ofDigitChars 10 s n := by
    induction s with
    | nil => exact fun _ => rfl
    | cons c s ih =>
      intro n
      rw [List.forall_mem_cons] at hs
      rw [List.foldl_cons, Nat.ofDigitChars_cons, digitValue, if_pos hs.1]
      exact ih hs.2 _
  exact hfrom 0

theorem ofDecimal_lt (hs : ∀ c ∈ s, isDigit c = true) : ofDecimal s < 10 ^ s.length := by
  rw [← ofDigits_ten hs]
  refine ofDigits_lt fun c hc => ?_
  have hdigit := toNat_of_isDigit (hs c hc)
  rw [digitValue, if_pos (hs c hc)]
  omega

/-- Runs of the same length with the same value are the same. -/
theorem eq_of_ofDecimal_eq (hlen : s.length = t.length) (hs : ∀ c ∈ s, isDigit c = true)
    (ht : ∀ c ∈ t, isDigit c = true) (h : ofDecimal s = ofDecimal t) : s = t := by
  induction s generalizing t with
  | nil => exact (List.length_eq_zero_iff.1 hlen.symm).symm
  | cons c s ih =>
    cases t with
    | nil => exact absurd hlen (by simp)
    | cons d t =>
      rw [List.forall_mem_cons] at hs ht
      have hlen' : s.length = t.length := Nat.succ.inj hlen
      have hslt : ofDecimal s < 10 ^ t.length := hlen' ▸ ofDecimal_lt hs.2
      have htlt : ofDecimal t < 10 ^ t.length := ofDecimal_lt ht.2
      have hpos : 0 < 10 ^ t.length := Nat.pow_pos (by decide)
      rw [ofDecimal_cons, ofDecimal_cons, hlen'] at h
      -- the first digit is the quotient by the weight of its place, the others are the remainder
      have hfirst : c.toNat - 48 = d.toNat - 48 := by
        have hdiv := congrArg (· / 10 ^ t.length) h
        simpa only [Nat.mul_add_div hpos, Nat.div_eq_of_lt hslt, Nat.div_eq_of_lt htlt,
          Nat.add_zero] using hdiv
      have hrest : ofDecimal s = ofDecimal t := by
        rw [hfirst] at h
        exact Nat.add_left_cancel h
      have hcd : c = d := by
        have hc := toNat_of_isDigit hs.1
        have hd := toNat_of_isDigit ht.1
        exact Char.toNat_inj.1 (by omega)
      rw [hcd, ih hlen' hs.2 ht.2 hrest]

/-- A run of digits is what its value is written with on its length. -/
theorem decimal_ofDecimal (hs : ∀ c ∈ s, isDigit c = true) (hpos : 0 < s.length) :
    decimal s.length (ofDecimal s) = s :=
  eq_of_ofDecimal_eq (length_decimal hpos (ofDecimal_lt hs)) (fun _ => isDigit_of_mem_decimal) hs
    (ofDecimal_decimal s.length (ofDecimal s))

end CommitStamp.Text
