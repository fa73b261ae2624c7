import CommitStamp.Revision.LogLine
import CommitStamp.Text.Blank
import CommitStamp.Vcs.Query
import CommitStamp.Vcs.Search
/-!
# The revision of a working copy

Two queries tell it: one for the latest commit, and, if there is one, another for the state of the
tree. `Lookup` searches the program first, and decides what it means that no revision was found.
-/

namespace CommitStamp.Vcs

open Text

/-! ## The two queries -/

/-- The query for the latest commit. -/
def logArguments : List (List Char) :=
  ["log", "-n", "1", "--format=format:%H %ci"].map String.toList

/-- The query for the state of the tree. -/
def statusArguments : List (List Char) :=
  ["status", "--porcelain"].map String.toList

/-- Hears lines up to the first that tells a commit. -/
def commitListener : Listener (Option (CommitHash × Timestamp)) := fun s line =>
  match LogLine.parse? line with
  | some commit => (some commit, false)
  | none => (s, true)

/-- Hears lines up to the first that is not blank, which tells that the tree is dirty. -/
def dirtyListener : Listener Bool := fun _ line =>
  let dirty := !line.all isBlank
  (dirty, !dirty)

/-- Why there is no revision. -/
inductive NoRevision where
  | noProgram
  | noCommit (directory : Path)
deriving DecidableEq

/-- The wording of the error. -/
def NoRevision.message : NoRevision → String
  | noProgram => "VCS binary not installed or not found"
  | noCommit directory => "no commit could be resolved in " ++ directory.toString

/-- The revision of a working copy. A tree whose state cannot be told counts as clean. -/
def Client.revision (c : Client) (h : Host) (directory : Path) :
    Except NoRevision Revision × Trace :=
  let (outcome, commit, asked) := c.query h directory logArguments commitListener none
  match outcome, commit with
  | .completed _, some (hash, time) =>
    let (outcome, dirty, askedAgain) := c.query h directory statusArguments dirtyListener false
    let dirty := match outcome with
      | .completed _ => dirty
      | _ => false
    (.ok ⟨hash, time, dirty⟩, asked ++ askedAgain)
  | _, _ => (.error (.noCommit directory), asked)

/-! ## Looking up -/

/-- How revisions are looked up. -/
structure Lookup where
  search : Search
  /-- How many milliseconds a query may take. -/
  timeout : Nat
  /-- Error output is discarded. -/
  quiet : Bool := false
deriving DecidableEq

namespace Lookup

/-- The way that a configuration asks for. -/
def ofConfig (h : Host) (c : Config) : Lookup :=
  ⟨.ofConfig h c.locator, c.resolver.timeout.toNat, c.resolver.quiet⟩

/-- The revision of a working copy, by the program that is found. -/
def found (l : Lookup) (h : Host) (directory : Path) (quiet : Bool) :
    Except NoRevision Revision × Trace :=
  match l.search.find? h with
  | none => (.error .noProgram, {})
  | some binary => Client.revision ⟨binary, l.timeout, l.quiet || quiet⟩ h directory

/-- The revision of a working copy, or the sentinel if a missing one is to be ignored. Nothing is
let through from the program's error output then. -/
def revision (l : Lookup) (h : Host) (directory : Path) (ignoreMissing : Bool) :
    Except NoRevision Revision × Trace :=
  match l.found h directory ignoreMissing with
  | (.ok r, trace) => (.ok r, trace)
  | (.error e, trace) =>
    (if ignoreMissing then .ok (.sentinel h.now) else .error e, trace)

end Lookup

end CommitStamp.Vcs
