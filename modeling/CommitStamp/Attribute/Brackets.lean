import CommitStamp.Path
import CommitStamp.Text.Lowercase
import CommitStamp.Text.Quoted
/-!
# Brackets of attributes

The language of the output file decides the brackets around an attribute, and the extension of the
file name tells the language.
-/

namespace CommitStamp

open Text

/-- The brackets around an attribute. -/
inductive Brackets where
  /-- As in files that end in `.cs`. -/
  | square
  /-- As in files that end in `.vb`. -/
  | angle
deriving DecidableEq

/-- The extension of an output file, in lower case and with its dot, is not a known one. -/
structure UnsupportedExtension where
  extension : String
deriving DecidableEq

/-- The wording of the error. -/
def UnsupportedExtension.message (e : UnsupportedExtension) : String :=
  "unsupported output file extension: " ++ quoted e.extension

namespace Brackets

/-- The bracket that opens an attribute. -/
def opening : Brackets → Char
  | square => '['
  | angle => '<'

/-- The bracket that closes an attribute. -/
def closing : Brackets → Char
  | square => ']'
  | angle => '>'

/-- The extension of a file name in lower case, with its dot; empty if there is none. -/
def dottedExtension (p : Path) : List Char :=
  match p.extension? with
  | some ending => '.' :: lowercase ending
  | none => []

/-- The brackets that a file of this name uses. -/
def ofOutput (p : Path) : Except UnsupportedExtension Brackets :=
  let extension := dottedExtension p
  if extension = ".cs".toList then .ok square
  else if extension = ".vb".toList then .ok angle
  else .error ⟨String.ofList extension⟩

end Brackets

end CommitStamp
