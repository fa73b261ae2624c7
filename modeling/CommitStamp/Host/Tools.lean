import CommitStamp.Host.Setup
import CommitStamp.Host.Shell
/-!
# The tools of a host

Programs that scripts expect to find on every host, in the directories where they look for them.
-/

namespace CommitStamp

open Text

/-- A program that stays for as many seconds as its arguments add up to. -/
def Tools.sleep : Program := fun i =>
  match i.arguments.mapM fun a => ofDecimal? (Encoding.utf8.decode a) with
  | none | some [] => .ok { ending := .exit 1 }
  | some seconds => .ok { duration := 1000 * seconds.foldl Nat.add 0 }

/-- The tools by name. -/
def Tools.programs : List (List Char × Program) :=
  [("sh".toList, Shell.program), ("sleep".toList, sleep)]

/-- The tree with the tools in a directory. -/
def FileTree.withToolsIn (t : FileTree) (directory : Place) : FileTree :=
  Tools.programs.foldl
    (fun t (name, program) => t.put (directory ++ [name])
      (.file { content := [], executable := true, program? := some program }))
    (t.ensure [] directory).1

/-- The tree with the tools where they belong. -/
def FileTree.withTools (t : FileTree) : FileTree :=
  (t.withToolsIn ["bin".toList]).withToolsIn ["usr".toList, "bin".toList]

end CommitStamp
