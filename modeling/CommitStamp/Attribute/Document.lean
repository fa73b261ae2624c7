import CommitStamp.Attribute.Line
import CommitStamp.Text.Lines
/-!
# Stamping a text

Each line is stamped on its own and keeps its terminator. Lines that were cut elsewhere can be
stamped as well, without their terminators.
-/

namespace CommitStamp

open Text

/-- The line with its body stamped. -/
def Text.Line.stamp (b : Brackets) (r : Revision) (l : Line) : Line :=
  { l with body := stampLine b r l.body }

/-- The text with every attribute line stamped, and the number of these lines. -/
def stampText (b : Brackets) (r : Revision) (text : List Char) : List Char × Nat :=
  let all := lines text
  ((all.map (Line.stamp b r)).flatMap Line.text,
    all.countP fun l => (AttributeLine.of? b l.body).isSome)

/-- Lines without their terminators, stamped one after the other; of each it is told whether it is an
attribute line, which its new text alone does not show. -/
def stampLines (b : Brackets) (r : Revision) (bodies : List (List Char)) :
    List (Bool × List Char) :=
  bodies.map fun line => ((stampedLine? b r line).isSome, stampLine b r line)

end CommitStamp
