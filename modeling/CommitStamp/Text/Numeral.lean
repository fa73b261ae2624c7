/-!
# Numerals

Unsigned numbers in decimal and in lowercase hexadecimal, filled with zeros on the left up to a
least width, and the value of a run of digits.
-/

namespace CommitStamp.Text

/-- `n` in decimal, on at least `width` characters. -/
def decimal (width n : Nat) : List Char :=
  (Nat.toDigits 10 n).leftpad width '0'

/-- `n` in lowercase hexadecimal, on at least `width` characters. -/
def hexadecimal (width n : Nat) : List Char :=
  (Nat.toDigits 16 n).leftpad width '0'

/-- One of the ten ASCII digits. -/
def isDigit (c : Char) : Bool :=
  '0' ≤ c && c ≤ '9'

/-- An ASCII digit of base eight. -/
def isOctalDigit (c : Char) : Bool :=
  '0' ≤ c && c ≤ '7'

/-- An ASCII digit of base sixteen, in either case. -/
def isHexDigit (c : Char) : Bool :=
  isDigit c || ('a' ≤ c && c ≤ 'f') || ('A' ≤ c && c ≤ 'F')

/-- The number that a digit stands for; a letter counts from ten, in either case. -/
def digitValue (c : Char) : Nat :=
  if isDigit c then c.toNat - 48 else if c ≤ 'Z' then c.toNat - 55 else c.toNat - 87

/-- The number that a run of digits writes in the given base. -/
def ofDigits (base : Nat) (s : List Char) : Nat :=
  s.foldl (fun n c => base * n + digitValue c) 0

/-- The number that a run of decimal digits writes; `0` for the empty run. -/
def ofDecimal (s : List Char) : Nat :=
  Nat.ofDigitChars 10 s 0

/-- The number that a run of digits writes in decimal, unless it is empty or holds anything else. -/
def ofDecimal? (s : List Char) : Option Nat :=
  if !s.isEmpty && s.all isDigit then some (ofDecimal s) else none

end CommitStamp.Text
