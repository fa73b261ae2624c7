import CommitStamp.Config.Basic
import CommitStamp.Host.Basic
import CommitStamp.Text.Lowercase
/-!
# Searching the version control program

Four strategies propose paths, one after the other: the path that is set, the directories of the
search path, the fallback roots, and the directories in them that are named like the program. The
first proposed path with a regular file at its end is the answer.
-/

namespace CommitStamp.Vcs

open Text

/-- A way to propose paths. -/
inductive Strategy where
  /-- The path that is set. -/
  | explicit
  /-- The directories of the search path. -/
  | searchPath
  /-- The fallback roots. -/
  | root
  /-- The directories in the fallback roots that are named like the program. -/
  | versions
deriving DecidableEq

namespace Strategy

/-- The strategies, in the order in which they are tried. -/
def order : List Strategy :=
  [explicit, searchPath, root, versions]

/-- The name of a strategy. -/
def name : Strategy → String
  | explicit => "explicit"
  | searchPath => "search-path"
  | root => "install-root"
  | versions => "install-root-glob"

end Strategy

/-- The environment variable with the path of the program. -/
def binaryVariable : String := "REVSTAMP_VCS"

/-- What is searched for, and where. -/
structure Search where
  /-- The file name of the program. -/
  name : List Char
  explicit? : Option Path := none
  /-- Directories with colons between them. -/
  searchPath? : Option (List Char) := none
  roots : List Path := []
deriving DecidableEq

namespace Search

/-- The search that a configuration asks for. A path in the environment, unless it is empty, goes
before the configured one. -/
def ofConfig (h : Host) (c : Config.Locator) : Search where
  name := c.binaryName.toList
  explicit? := ((h.binary?.filter (· ≠ [])).map Path.mk).or (c.binary.map Path.ofString)
  searchPath? := if c.usePath then h.searchPath? else none
  roots := c.fallbackRoots.map Path.ofString

/-- The places for the program in a directory of its own. -/
def installed (s : Search) (directory : Path) : List Path :=
  [(directory.join ⟨"bin".toList⟩).join ⟨s.name⟩, (directory.join ⟨"cmd".toList⟩).join ⟨s.name⟩]

/-- The first text comes before the second or is the same: where they differ first, it has the
character with the lower number. -/
def sortsBefore : List Char → List Char → Bool
  | [], _ => true
  | _ :: _, [] => false
  | c :: s, d :: t => c < d || (c == d && sortsBefore s t)

/-- The directories in `root` whose names start like the program, whatever the case of the letters,
sorted by name; none if `root` cannot be listed. -/
def versions (s : Search) (h : Host) (root : Path) : List Path :=
  match h.files.list h.workdir root with
  | .error _ => []
  | .ok names =>
    let alike := names.filter fun n =>
      (lowercase s.name).isPrefixOf (lowercase n)
    ((alike.mergeSort sortsBefore).map fun n => root.join ⟨n⟩).filter
      (h.files.hasDirectory h.workdir)

/-- The paths that a strategy proposes. -/
def proposals (s : Search) (h : Host) : Strategy → List Path
  | .explicit => s.explicit?.toList
  | .searchPath =>
    ((splitAt ':' (s.searchPath?.getD [])).filter (· ≠ [])).map fun d => Path.join ⟨d⟩ ⟨s.name⟩
  | .root => s.roots.flatMap fun root => root.join ⟨s.name⟩ :: s.installed root
  | .versions => (s.roots.flatMap (s.versions h)).flatMap s.installed

/-- The path of the program. -/
def find? (s : Search) (h : Host) : Option Path :=
  Strategy.order.findSome? fun strategy => (s.proposals h strategy).find? h.hasFile

end Search

end CommitStamp.Vcs
