import CommitStamp.Attribute.Document
import CommitStamp.Host.Basic
import CommitStamp.Vcs.Resolve
/-!
# Stamping a file

The attribute lines of an input file are stamped and the result is written to an output file, in
the encoding of the input. All checks come before the output is touched: if one fails, no file
changes.
-/

namespace CommitStamp.Stamp

/-! ## From one file to another -/

/-- A file that could not be read or written. -/
inductive FileError where
  | read (path : Path) (fault : SystemFault)
  | write (path : Path) (fault : SystemFault)
deriving DecidableEq

namespace FileError

/-- The fault behind the error. -/
def fault : FileError → SystemFault
  | read _ fault | write _ fault => fault

/-- The wording of the error. -/
def message : FileError → String
  | read path fault => "failed to read " ++ path.toString ++ ": " ++ fault.message
  | write path fault => "failed to write " ++ path.toString ++ ": " ++ fault.message

end FileError

/-- What keeps a file from being stamped. -/
inductive Obstacle where
  | unsupported (e : UnsupportedExtension)
  | file (e : FileError)
deriving DecidableEq

/-- What was done to a file. -/
structure Report where
  /-- The number of attribute lines. -/
  attributes : Nat
  encoding : Encoding
deriving DecidableEq

/-- The content of a file, stamped. -/
def stampBytes (b : Brackets) (r : Revision) (content : Bytes) : Bytes × Report :=
  let encoding := Encoding.detect content
  let (text, attributes) := stampText b r (encoding.decode content)
  (encoding.encode text, ⟨attributes, encoding⟩)

/-- Stamps `input` into `output`; the files afterwards come second. -/
def stampFile (h : Host) (input output : Path) (r : Revision) :
    Except Obstacle Report × FileTree :=
  match Brackets.ofOutput output with
  | .error e => (.error (.unsupported e), h.files)
  | .ok b =>
    match h.files.read h.workdir input with
    | .error fault => (.error (.file (.read input fault)), h.files)
    | .ok content =>
      let (stamped, report) := stampBytes b r content
      match h.files.write h.workdir output stamped with
      | .error fault => (.error (.file (.write output fault)), h.files)
      | .ok files => (.ok report, files)

/-! ## Jobs -/

/-- A file to be stamped. -/
structure Job where
  input : Path
  output : Path
  /-- A dirty tree is refused. -/
  refuseDirty : Bool := false
deriving DecidableEq

/-- Why nothing was stamped. -/
inductive Error where
  | noRevision (cause : Vcs.NoRevision)
  | dirtyTree
  | noInput (path : Path)
  | unsupported (e : UnsupportedExtension)
  | file (e : FileError)
deriving DecidableEq

namespace Error

/-- The wording of the error. -/
def message : Error → String
  | noRevision _ => "not a version-controlled working directory"
  | dirtyTree => "working directory contains uncommitted changes, stop requested by option"
  | noInput path => "input file doesn't exist: " ++ path.toString
  | unsupported e => e.message ++ " (expected .cs or .vb)"
  | file e => e.message

/-- The wording of what caused the error, if something else did. -/
def cause? : Error → Option String
  | noRevision cause => some cause.message
  | file e => some e.fault.message
  | dirtyTree | noInput _ | unsupported _ => none

/-- The error that an obstacle is for a job. -/
def ofObstacle : Obstacle → Error
  | .unsupported e => unsupported e
  | .file e => file e

end Error

/-- Does the job with a revision; the files afterwards come second. -/
def Job.run (j : Job) (h : Host) (r : Revision) : Except Error Report × FileTree :=
  if j.refuseDirty ∧ r.dirty then (.error .dirtyTree, h.files)
  else
    match Brackets.ofOutput j.output with
    | .error e => (.error (.unsupported e), h.files)
    | .ok _ =>
      if h.hasFile j.input then
        let (result, files) := stampFile h j.input j.output r
        (result.mapError .ofObstacle, files)
      else (.error (.noInput j.input), h.files)

end CommitStamp.Stamp
