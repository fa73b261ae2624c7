import CommitStamp.Text.LowerTable
import CommitStamp.Text.Ranges
/-!
# Lower case

The full lower-case form of a text: letter by letter, with two exceptions. The dotted capital I
becomes two characters, and a capital sigma becomes a final sigma at the end of a word, that is
after a cased letter and not before one, marks and other case-ignorable characters apart.
-/

namespace CommitStamp.Text

/-- The lower-case form of one character other than sigma. -/
def lowerChar (c : Char) : List Char :=
  if c = '\u0130' then ['i', '\u0307']
  else
    let n := c.toNat
    match lowerRuns.find? fun (first, last, step, _) =>
        first ≤ n && n ≤ last && (n - first) % step == 0 with
    | some (_, _, _, distance) => [Char.ofNat (n + distance).toNat]
    | none => [c]

/-- The first character that is not case-ignorable is cased. -/
def startsCased (s : List Char) : Bool :=
  match s.dropWhile (inRanges caseIgnorableRanges) with
  | [] => false
  | c :: _ => inRanges casedRanges c

/-- The lower-case form of `s` after a text that is given in reverse. -/
def lowercaseAfter (before : List Char) : List Char → List Char
  | [] => []
  | c :: s =>
    let lower :=
      if c = 'Σ' then [if startsCased before && !startsCased s then 'ς' else 'σ'] else lowerChar c
    lower ++ lowercaseAfter (c :: before) s

/-- The lower-case form of a text. -/
def lowercase (s : List Char) : List Char :=
  lowercaseAfter [] s

end CommitStamp.Text
