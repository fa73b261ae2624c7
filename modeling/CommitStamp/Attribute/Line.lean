import CommitStamp.Attribute.Brackets
import CommitStamp.Template.Render
import CommitStamp.Text.Blank
import CommitStamp.Text.Letter
/-!
# Attribute lines

A line with the version attribute of an assembly is cut into three: the *head* up to and including
the quote before the value, the *value*, and the *tail* from the quote after it. Blanks may stand
between any two parts of the attribute, and its words may be in any case. Neither the value nor what
follows the closing bracket holds a newline; of all the quotes that could end the value the last one
does.
-/

namespace CommitStamp

open Text

/-- The parts of an attribute line. -/
structure AttributeLine where
  head : List Char
  value : List Char
  tail : List Char
deriving DecidableEq

namespace AttributeLine

/-- The text of the line. -/
def text (a : AttributeLine) : List Char :=
  a.head ++ a.value ++ a.tail

/-- The text without the blanks at its start. -/
def skipBlanks (s : List Char) : List Char :=
  s.dropWhile isBlank

/-- What follows the head of an attribute line. -/
def afterHead? (b : Brackets) (line : List Char) : Option (List Char) := do
  let s ← after? [b.opening] (skipBlanks line)
  let s ← afterWord? "assembly".toList (skipBlanks s)
  let s ← after? [':'] (skipBlanks s)
  let s ← afterWord? "AssemblyInformationalVersion".toList (skipBlanks s)
  let s ← after? ['('] (skipBlanks s)
  after? ['"'] (skipBlanks s)

/-- What follows the end of the attribute: a quote, a parenthesis and the closing bracket. -/
def afterClosing? (b : Brackets) (s : List Char) : Option (List Char) := do
  let s ← after? ['"'] s
  let s ← after? [')'] (skipBlanks s)
  after? [b.closing] (skipBlanks s)

/-- The text ends the attribute and then the line. -/
def isTail (b : Brackets) (s : List Char) : Bool :=
  match afterClosing? b s with
  | some rest => !rest.contains '\n'
  | none => false

/-- The longest value without a newline that is followed by a tail, and that tail. -/
def cutValue (b : Brackets) : List Char → Option (List Char × List Char)
  | [] => none
  | c :: s =>
    match if c = '\n' then none else cutValue b s with
    | some (value, tail) => some (c :: value, tail)
    | none => if isTail b (c :: s) then some ([], c :: s) else none

/-- The parts of a line, if it is an attribute line. -/
def of? (b : Brackets) (line : List Char) : Option AttributeLine := do
  let s ← afterHead? b line
  let (value, tail) ← cutValue b s
  return ⟨line.take (line.length - s.length), value, tail⟩

/-- The line with its value rendered as a template. -/
def stamp (r : Revision) (a : AttributeLine) : AttributeLine :=
  { a with value := Template.expand r a.value }

end AttributeLine

/-- The new text of an attribute line; nothing for any other line. -/
def stampedLine? (b : Brackets) (r : Revision) (line : List Char) : Option (List Char) :=
  (AttributeLine.of? b line).map fun a => (a.stamp r).text

/-- The new text of a line; every line but an attribute line is left alone. -/
def stampLine (b : Brackets) (r : Revision) (line : List Char) : List Char :=
  (stampedLine? b r line).getD line

end CommitStamp
