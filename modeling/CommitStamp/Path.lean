import CommitStamp.Text.Cut
/-!
# Paths

Paths as they are written: names with slashes between them. Repeated slashes and the name `.` are
fillers that carry no meaning, except that a leading `.` is a step of its own. Nothing here looks at
files; the tree that a path is followed in is another matter.
-/

namespace CommitStamp

open Text

/-- A path as it is written. -/
structure Path where
  text : List Char
deriving DecidableEq

namespace Path

/-- The path that a text writes. -/
def ofString (s : String) : Path := ⟨s.toList⟩

/-- The text of a path. -/
def toString (p : Path) : String := String.ofList p.text

/-- The path starts at the top of the tree. -/
def isAbsolute (p : Path) : Bool :=
  p.text.head? == some '/'

/-- `q` as seen from the directory `p`; an absolute `q` is itself. -/
def join (p q : Path) : Path :=
  if q.isAbsolute then q
  else if p.text = [] ∨ p.text.getLast? = some '/' then ⟨p.text ++ q.text⟩
  else ⟨p.text ++ '/' :: q.text⟩

/-- Where a written path starts. -/
inductive Start where
  /-- At the working directory, with the first name. -/
  | name
  /-- At the working directory, written as a dot. -/
  | dot
  /-- At the top of the tree. -/
  | top
deriving DecidableEq

/-- The start of a path and the pieces between its slashes. -/
def pieces (p : Path) : Start × List (List Char) :=
  match splitAt '/' p.text with
  | [] :: piece :: rest => (.top, piece :: rest)
  | ['.'] :: rest => (.dot, rest)
  | all => (.name, all)

/-- The path with this start and these pieces. -/
def ofPieces : Start → List (List Char) → Path
  | .name, pieces => ⟨joinWith '/' pieces⟩
  | .dot, [] => ⟨['.']⟩
  | .dot, pieces => ⟨'.' :: '/' :: joinWith '/' pieces⟩
  | .top, pieces => ⟨'/' :: joinWith '/' pieces⟩

/-- A piece that is no step: nothing between two slashes, or a dot. -/
def isFiller (piece : List Char) : Bool :=
  piece == [] || piece == ['.']

/-- The path without its last step and the fillers around that; none if it has no step. -/
def parent? (p : Path) : Option Path :=
  let (start, all) := p.pieces
  match all.reverse.dropWhile isFiller with
  | _ :: before => some (ofPieces start (before.dropWhile isFiller).reverse)
  | [] => if start = .dot then some ⟨[]⟩ else none

/-- The last step, unless it goes up or there is none. -/
def fileName? (p : Path) : Option (List Char) :=
  match p.pieces.2.reverse.dropWhile isFiller with
  | name :: _ => if name = ['.', '.'] then none else some name
  | [] => none

/-- What follows the last dot of the file name; a dot at the very start does not count. -/
def extension? (p : Path) : Option (List Char) := do
  let name ← p.fileName?
  let (ending, before) ← cutAt '.' name.reverse
  if before = [] then none else return ending.reverse

end Path

end CommitStamp
