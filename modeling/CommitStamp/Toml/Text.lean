import CommitStamp.Text.Cut
import CommitStamp.Text.Numeral
import CommitStamp.Text.Prefix
/-!
# Strings in TOML

A string is written in one of four forms: basic, with backslash escapes, or literal, without; either
of them on one line or, in tripled quotes, over several. `StringForm.of` is the form in which a
string is best read by people, `StringForm.write` writes it, and `string?` reads whichever form it
finds. The readers take the text after the opening quotes and give the string and the text after the
closing ones.

A carriage return counts as a blank here: a document holds none but before a newline, which
`Document` checks once for the whole text.
-/

namespace CommitStamp.Toml

open Text

/-! ## Characters -/

/-- A control character other than the tab; none stands in a string or a comment as it is. -/
def isControl (c : Char) : Bool :=
  (c.toNat < 0x20 && c != '\t') || c == '\x7f'

/-- What may stand between two words of a line. -/
def isBlank (c : Char) : Bool :=
  c == ' ' || c == '\t' || c == '\r'

/-- What may stand, unescaped, in a string of several lines. -/
def isBlockChar (c : Char) : Bool :=
  !isControl c || c == '\n' || c == '\r'

/-! ## Escapes -/

/-- The character that a single letter after a backslash stands for. -/
def namedEscape? : Char → Option Char
  | 'b' => some '\x08'
  | 't' => some '\t'
  | 'n' => some '\n'
  | 'f' => some '\x0c'
  | 'r' => some '\r'
  | 'e' => some '\x1b'
  | '"' => some '"'
  | '\\' => some '\\'
  | _ => none

/-- The character whose number these digits write in hexadecimal. -/
def numberedEscape? (digits : List Char) : Option Char :=
  let n := ofDigits 16 digits
  if digits.all isHexDigit && decide n.isValidChar then some (Char.ofNat n) else none

/-- The character of an escape, read after its backslash, and the text after the escape. -/
def escape? : List Char → Option (Char × List Char)
  | 'x' :: a :: b :: s => (numberedEscape? [a, b]).map (·, s)
  | 'u' :: a :: b :: c :: d :: s => (numberedEscape? [a, b, c, d]).map (·, s)
  | 'U' :: a :: b :: c :: d :: e :: f :: g :: h :: s =>
    (numberedEscape? [a, b, c, d, e, f, g, h]).map (·, s)
  | c :: s => (namedEscape? c).map (·, s)
  | [] => none

theorem length_lt_of_escape? {s r : List Char} {c : Char} (h : escape? s = some (c, r)) :
    r.length < s.length := by
  unfold escape? at h
  split at h <;> simp_all [Option.map_eq_some_iff] <;> grind

/-- A character between the quotes of a basic string on one line. -/
def escaped (c : Char) : List Char :=
  match c with
  | '\x08' => ['\\', 'b']
  | '\t' => ['\\', 't']
  | '\n' => ['\\', 'n']
  | '\x0c' => ['\\', 'f']
  | '\r' => ['\\', 'r']
  | '"' => ['\\', '"']
  | '\\' => ['\\', '\\']
  | _ => if isControl c then '\\' :: 'u' :: (hexadecimal 4 c.toNat).map Char.toUpper else [c]

/-! ## Reading -/

/-- The rest of a basic string on one line. -/
def basic? : List Char → Option (List Char × List Char)
  | [] => none
  | c :: s =>
    if c = '"' then some ([], s)
    else if c = '\\' then
      match _ : escape? s with
      | some (d, r) => (basic? r).map fun (t, r) => (d :: t, r)
      | none => none
    else if isControl c then none
    else (basic? s).map fun (t, r) => (c :: t, r)
termination_by s => s.length
decreasing_by
  · have := length_lt_of_escape? ‹_›
    grind
  · simp

/-- The rest of a literal string on one line. -/
def literal? (s : List Char) : Option (List Char × List Char) :=
  (cutAt '\'' s).filter fun (t, _) => !t.any isControl

/-- Three quotes that close a string of several lines. Up to two quotes more belong to the string;
they are given together with the text after all of them. -/
def closing? (quote : Char) (s : List Char) : Option (List Char × List Char) :=
  (after? [quote, quote, quote] s).map fun r =>
    let extra := (r.take 2).takeWhile (· == quote)
    (extra, r.drop extra.length)

/-- The text after a backslash at the end of a line: it takes away the line end and all that is
blank after it. -/
def joinedLine? (s : List Char) : Option (List Char) :=
  match s.dropWhile isBlank with
  | '\n' :: r => some (r.dropWhile fun c => isBlank c || c == '\n')
  | _ => none

theorem length_lt_of_joinedLine? {s r : List Char} (h : joinedLine? s = some r) :
    r.length < s.length := by
  have hs := (List.dropWhile_suffix (p := isBlank) (l := s)).length_le
  unfold joinedLine? at h
  split at h
  · next t ht =>
    have := (List.dropWhile_suffix (p := fun c => isBlank c || c == '\n') (l := t)).length_le
    grind
  · simp at h

/-- The rest of a basic string of several lines. -/
def basicBlock? : List Char → Option (List Char × List Char)
  | [] => none
  | c :: s =>
    match closing? '"' (c :: s) with
    | some found => some found
    | none =>
      if c = '\\' then
        match _ : joinedLine? s with
        | some r => basicBlock? r
        | none =>
          match _ : escape? s with
          | some (d, r) => (basicBlock? r).map fun (t, r) => (d :: t, r)
          | none => none
      else if isBlockChar c then (basicBlock? s).map fun (t, r) => (c :: t, r)
      else none
termination_by s => s.length
decreasing_by
  · have := length_lt_of_joinedLine? ‹_›
    grind
  · have := length_lt_of_escape? ‹_›
    grind
  · simp

/-- The rest of a literal string of several lines. -/
def literalBlock? : List Char → Option (List Char × List Char)
  | [] => none
  | c :: s =>
    match closing? '\'' (c :: s) with
    | some found => some found
    | none => if isBlockChar c then (literalBlock? s).map fun (t, r) => (c :: t, r) else none

/-- A text without the line end that it starts with; the first line of a string of several lines
may be left empty. -/
def afterLineEnd : List Char → List Char
  | '\n' :: s => s
  | '\r' :: '\n' :: s => s
  | s => s

/-- The string of any form that a text starts with, and the text after it. -/
def string? : List Char → Option (List Char × List Char)
  | '"' :: '"' :: '"' :: s => basicBlock? (afterLineEnd s)
  | '"' :: s => basic? s
  | '\'' :: '\'' :: '\'' :: s => literalBlock? (afterLineEnd s)
  | '\'' :: s => literal? s
  | _ => none

/-! ## Writing -/

/-- The forms of a string. -/
inductive StringForm where
  | basic
  | literal
  | basicBlock
  | literalBlock
deriving DecidableEq

/-- The text has three `quote`s in a row. -/
def hasTriple (quote : Char) : List Char → Bool
  | a :: b :: c :: s => (a == quote && b == quote && c == quote) || hasTriple quote (b :: c :: s)
  | _ => false

/-- The form in which a string is written: the first that needs no escape, and one with escapes if
there is none. -/
def StringForm.of (s : List Char) : StringForm :=
  let printable := !s.any isControl
  let printableLines := s.all fun c => !isControl c || c == '\n'
  if printable && !s.contains '\\' && !s.contains '"' then .basic
  else if printable && !s.contains '\'' then .literal
  else if printableLines && !s.contains '\\' && !hasTriple '"' s then .basicBlock
  else if printableLines && !hasTriple '\'' s then .literalBlock
  else if s.contains '\n' then .basicBlock
  else .basic

/-- A basic string of several lines without its quotes, after `quotes` quotes in a row. The third
in a row is escaped, so that they close nothing. -/
def blockEscaped (quotes : Nat) : List Char → List Char
  | [] => []
  | c :: s =>
    if c = '"' then
      if quotes < 2 then '"' :: blockEscaped (quotes + 1) s else '\\' :: '"' :: blockEscaped 0 s
    else if c = '\n' then '\n' :: blockEscaped 0 s
    else escaped c ++ blockEscaped 0 s

/-- The empty first line of a string that has several. -/
def openingLine (s : List Char) : List Char :=
  if s.contains '\n' then ['\n'] else []

/-- A string in the given form. -/
def StringForm.write (form : StringForm) (s : List Char) : List Char :=
  match form with
  | basic => '"' :: (s.flatMap escaped ++ ['"'])
  | literal => '\'' :: (s ++ ['\''])
  | basicBlock => "\"\"\"".toList ++ openingLine s ++ blockEscaped 0 s ++ "\"\"\"".toList
  | literalBlock => "'''".toList ++ openingLine s ++ s ++ "'''".toList

/-- A string in the form that suits it. -/
def writeString (s : List Char) : List Char :=
  (StringForm.of s).write s

end CommitStamp.Toml
