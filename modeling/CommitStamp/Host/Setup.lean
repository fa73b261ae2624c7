import CommitStamp.Host.FileTree
/-!
# Preparing a file tree

Directories and programs put in place before a run.
-/

namespace CommitStamp.FileTree

/-- A tree in which the directories along a path exist, and the place that the path leads to. -/
def ensure (t : FileTree) (here : Place) : List (List Char) → FileTree × Place
  | [] => (t, here)
  | name :: names =>
    if Path.isFiller name then t.ensure here names
    else if name = ['.', '.'] then t.ensure here.dropLast names
    else
      match t.get? (here ++ [name]) with
      | some _ => t.ensure (here ++ [name]) names
      | none => (t.put (here ++ [name]) (.directory {})).ensure (here ++ [name]) names

/-- The tree with a directory at the end of a path, and all directories on the way. -/
def makeDirectories (t : FileTree) (workdir : Place) (p : Path) : FileTree :=
  match origin workdir p with
  | .ok (start, names) => (t.ensure start names).1
  | .error _ => t

/-- The tree with a file, and the directories on the way to it. -/
def writeWithParents (t : FileTree) (workdir : Place) (p : Path) (content : Bytes) :
    Except SystemFault FileTree :=
  (t.makeDirectories workdir (p.parent?.getD ⟨[]⟩)).write workdir p content

/-- The tree with a program, its text, and the directories on the way to it; the place of the
program comes second. -/
def install (t : FileTree) (workdir : Place) (p : Path) (content : Bytes) (program : Program) :
    Except SystemFault (FileTree × Place) := do
  let t := t.makeDirectories workdir (p.parent?.getD ⟨[]⟩)
  let place ← t.target workdir p
  return (t.put place (.file { content, executable := true, program? := some program }), place)

/-- The tree without what is at the end of a path. -/
def remove (t : FileTree) (workdir : Place) (p : Path) : Except SystemFault FileTree := do
  return t.erase (← t.find workdir p)

end CommitStamp.FileTree
