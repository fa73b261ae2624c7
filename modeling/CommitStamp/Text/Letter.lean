/-!
# Letters without regard to case

Two characters are the same letter when simple case folding takes both to the same character. Only
the foldings that end in an ASCII letter are needed, since the words that are looked for are ASCII:
the capitals, the long s and the Kelvin sign.
-/

namespace CommitStamp.Text

/-- Simple case folding onto the ASCII letters; every other character is left alone. -/
def foldCase (c : Char) : Char :=
  if 'A' ≤ c ∧ c ≤ 'Z' then Char.ofNat (c.toNat + 32)
  else if c = '\u017f' then 's'
  else if c = '\u212a' then 'k'
  else c

/-- What follows `word` in a text that starts with it, letters compared without regard to case. -/
def afterWord? : List Char → List Char → Option (List Char)
  | [], s => some s
  | _ :: _, [] => none
  | w :: word, c :: s => if foldCase c = foldCase w then afterWord? word s else none

end CommitStamp.Text
