import CommitStamp.Text.Numeral
import CommitStamp.Text.Quoted
/-!
# Commit hashes

The full name of a commit: forty lowercase hexadecimal digits.
-/

namespace CommitStamp

/-- The number of digits of a full commit hash. -/
def hashLength : Nat := 40

/-- A digit of a stored hash. -/
def isLowerHexDigit (c : Char) : Bool :=
  Text.isDigit c || ('a' ≤ c && c ≤ 'f')

/-- The full hash of a commit, in lower case. -/
structure CommitHash where
  digits : List Char
  length_digits : digits.length = hashLength
  digits_hex : ∀ c ∈ digits, isLowerHexDigit c = true
deriving DecidableEq

namespace CommitHash

/-- The text of a hash. -/
def toString (h : CommitHash) : String :=
  String.ofList h.digits

/-- The lower-case form of an ASCII hexadecimal digit; any other character is left alone. -/
def lowerHexDigit (c : Char) : Char :=
  if 'A' ≤ c && c ≤ 'F' then Char.ofNat (c.toNat + 32) else c

/-- The hash that forty hexadecimal digits of either case write. -/
def ofDigits? (s : List Char) : Option CommitHash :=
  let digits := s.map lowerHexDigit
  if h : digits.length = hashLength ∧ digits.all isLowerHexDigit = true then
    some ⟨digits, h.1, List.all_eq_true.1 h.2⟩
  else none

/-- The hash of forty zeros, which names no commit. -/
def zero : CommitHash :=
  ⟨List.replicate hashLength '0', by simp, by intro c hc; rw [List.eq_of_mem_replicate hc]; decide⟩

/-- The text is not a full commit hash. -/
structure InvalidHash where
  text : String
deriving DecidableEq

/-- Reads a full hash; letters may be in either case. -/
def parse (text : String) : Except InvalidHash CommitHash :=
  match ofDigits? text.toList with
  | some h => .ok h
  | none => .error ⟨text⟩

/-- The first `n` digits, or all forty if there are no more. -/
def take (h : CommitHash) (n : Nat) : List Char :=
  h.digits.take n

/-- The wording of the error. -/
def InvalidHash.message (e : InvalidHash) : String :=
  "invalid commit hash " ++ Text.quoted e.text ++ ": expected 40 hex characters"

end CommitHash

end CommitStamp
