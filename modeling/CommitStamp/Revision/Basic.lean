import CommitStamp.Calendar.Timestamp
import CommitStamp.Revision.Hash
/-!
# Revisions

What is known of a working copy: its latest commit, when that was made, and whether the copy has
changes that are not in it.
-/

namespace CommitStamp

/-- The latest commit of a working copy and the state of its files. -/
structure Revision where
  hash : CommitHash
  time : Timestamp
  /-- There are changed or untracked files. -/
  dirty : Bool
deriving DecidableEq

/-- The revision of a tree without version control: the zero hash, clean, at a given moment. -/
def Revision.sentinel (now : Timestamp) : Revision :=
  ⟨CommitHash.zero, now, false⟩

end CommitStamp
