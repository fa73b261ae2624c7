import CommitStamp.Encoding.Basic
import CommitStamp.Host.Fault
import CommitStamp.Path
/-!
# The file tree

Directories, regular files and links at places, and the paths that lead to them. A path is followed
name by name from a directory; each name is looked up in a directory that may be searched, and a
symbolic link puts the names of its target in place of its own. A file lies at one place, and its
further names are links to that place, so a place stands for a file whatever path leads there.
Reading never changes the tree; `FileTree.write` changes one place, and `get?_put` says that no
other place notices.

Permissions are those of the user who runs, for each entry as a whole. Left out of a file system are
names that are not Unicode, entries other than directories, regular files and links, owners, times
and limits of space, and what other processes do to it meanwhile.
-/

namespace CommitStamp

open Text

/-- A place in the tree: the names on the way from the top. -/
abbrev Place := List (List Char)

/-- The absolute path of a place. -/
def Place.path (p : Place) : Path :=
  ⟨'/' :: joinWith '/' p⟩

/-! ## Programs -/

/-- How a program ends. -/
inductive Ending where
  | exit (code : Nat)
  | signal (number : Nat)
deriving DecidableEq

/-- A program that runs in a process: the file that holds it, and what it was given. -/
structure Execution where
  file : Place
  arguments : List Bytes
deriving DecidableEq

/-- What a program does: it writes its output and its error output, stays for some milliseconds, and
ends. It may leave its process to other programs; what they do is part of it. -/
structure Response where
  output : Bytes := []
  errors : Bytes := []
  duration : Nat := 0
  ending : Ending := .exit 0
  /-- The programs that the process was left to, one after the other. -/
  successors : List Execution := []
deriving DecidableEq

/-- How a program is started, and what it can find out and do then. -/
structure Invocation where
  /-- The path that led to the program. -/
  name : Path
  directory : Place
  arguments : List Bytes
  /-- The search path that the program inherits. -/
  searchPath? : Option (List Char)
  /-- Whether a directory stands at a place. -/
  isDirectory : Place → Bool
  /-- The content of the file at the end of a path. -/
  content? : Path → Option Bytes
  /-- What the program at the end of a path does with these arguments, if the process is left to
  it. -/
  leaveTo : Path → List Bytes → Except SystemFault Response

/-- A program answers to its invocation. It may also fail to start, for reasons that do not lie in
the files. -/
abbrev Program := Invocation → Except SystemFault Response

/-! ## Entries -/

/-- A regular file. -/
structure File where
  content : Bytes
  executable : Bool := false
  /-- The program that the content is, if that is known; of a script, what its interpreter makes of
  it. -/
  program? : Option Program := none
  readable : Bool := true
  writable : Bool := true

/-- A directory, and what may be done in it. -/
structure Directory where
  /-- Its names may be listed. -/
  listable : Bool := true
  /-- New files may be put into it. -/
  writable : Bool := true
  /-- Names may be looked up in it. -/
  searchable : Bool := true
deriving DecidableEq

/-- A name for what has its place elsewhere. -/
inductive Link where
  /-- For what a path leads to, as seen from the directory of the link. -/
  | symbolic (target : Path)
  /-- For the file at a place. -/
  | hard (home : Place)
deriving DecidableEq

/-- What stands at a place. -/
inductive Entry where
  | directory (d : Directory)
  | file (f : File)
  | link (l : Link)

/-- Entries at places: what is listed for the top, and the trees below it by their names. The top is
a directory also without being listed. -/
inductive FileTree where
  | node (top? : Option Entry) (children : List (List Char × FileTree))

namespace FileTree

/-! ## Places -/

/-- The tree without any entry. -/
def empty : FileTree := node none []

/-- The trees below the top. -/
def children : FileTree → List (List Char × FileTree)
  | node _ children => children

/-- The tree below a name. -/
def child (t : FileTree) (name : List Char) : FileTree :=
  (t.children.lookup name).getD empty

/-- The tree with another one below a name. -/
def withChild (t : FileTree) (name : List Char) (u : FileTree) : FileTree :=
  match t with
  | node top? children => node top? ((name, u) :: children.filter (·.1 ≠ name))

theorem child_withChild {t u : FileTree} {m n : List Char} :
    (t.withChild m u).child n = if n = m then u else t.child n := by
  obtain ⟨top?, children⟩ := t
  by_cases h : n = m
  · simp [withChild, child, FileTree.children, h]
  · have hn : (n == m) = false := beq_eq_false_iff_ne.2 h
    simp only [withChild, child, FileTree.children, List.lookup_cons, hn, if_neg h]
    congr 1
    induction children with
    | nil => rfl
    | cons x xs ih =>
      obtain ⟨x, v⟩ := x
      by_cases hx : x = m
      · subst hx
        simp [List.lookup_cons, hn, ← ih]
      · simp [List.lookup_cons, hx, ← ih]

/-- What is listed at a place. -/
def listed? : Place → FileTree → Option Entry
  | [], node top? _ => top?
  | name :: p, t => listed? p (t.child name)

/-- The directory at the top. -/
def top (t : FileTree) : Directory :=
  match listed? [] t with
  | some (.directory d) => d
  | _ => {}

/-- What stands at a place. -/
def get? (t : FileTree) : Place → Option Entry
  | [] => some (.directory t.top)
  | p => listed? p t

/-- A directory stands at a place. -/
def isDirectory (t : FileTree) (p : Place) : Bool :=
  t.get? p matches some (.directory _)

/-- The tree with an entry at a place, whatever stood there. -/
def put (t : FileTree) : Place → Entry → FileTree
  | [], e => node (some e) t.children
  | name :: p, e => t.withChild name ((t.child name).put p e)

theorem listed?_put {t : FileTree} {p q : Place} {e : Entry} :
    listed? q (t.put p e) = if q = p then some e else listed? q t := by
  induction p generalizing t q with
  | nil =>
    cases q with
    | nil => simp [put, listed?]
    | cons n q => simp [put, listed?, child, children]
  | cons m p ih =>
    cases q with
    | nil =>
      obtain ⟨top?, children⟩ := t
      simp [put, listed?, withChild]
    | cons n q =>
      by_cases h : n = m
      · subst h
        simp [put, listed?, child_withChild, ih]
      · simp [put, listed?, child_withChild, h]

theorem top_put {t : FileTree} {p : Place} {e : Entry} (hp : p ≠ []) :
    (t.put p e).top = t.top := by
  rw [top, listed?_put, if_neg (Ne.symm hp), top]

theorem get?_put {t : FileTree} {p q : Place} {e : Entry} (hp : p ≠ []) :
    (t.put p e).get? q = if q = p then some e else t.get? q := by
  cases q with
  | nil => simp [get?, top_put hp, Ne.symm hp]
  | cons n q => exact listed?_put

/-- The tree without a place and all that is below it. -/
def erase (t : FileTree) : Place → FileTree
  | [] => empty
  | name :: p => t.withChild name ((t.child name).erase p)

/-- The names in a directory. -/
def names (t : FileTree) : Place → List (List Char)
  | [] => (t.children.filter fun (_, u) => (listed? [] u).isSome).map (·.1)
  | name :: p => (t.child name).names p

/-! ## Following paths -/

/-- The number of bytes that a text takes. -/
def byteLength (s : List Char) : Nat :=
  (s.flatMap Utf8.encodeChar).length

/-- The names of a path and the place at which the first of them is looked up. -/
def origin (workdir : Place) (p : Path) : Except SystemFault (Place × List (List Char)) :=
  if '\x00' ∈ p.text then .error .zeroInPath
  else if p.text = [] then .error .notFound
  else if byteLength p.text ≥ 4096 then .error .nameTooLong
  else .ok (if p.isAbsolute then [] else workdir, splitAt '/' p.text)

/-- What a path is followed for. -/
inductive Purpose where
  /-- Something that is there. -/
  | existing
  /-- A file to be written. It may be new, but its directory has to be there. -/
  | writing
deriving DecidableEq

/-- Where a name leads. -/
inductive Way where
  /-- Straight to a place. -/
  | straight (place : Place)
  /-- Through a symbolic link: on along its names from a place. -/
  | through (start : Place) (names : List (List Char))

/-- Where a name of a directory leads, as the last one of its path or not. -/
def lookUp (t : FileTree) (purpose : Purpose) (here : Place) (d : Directory) (name : List Char)
    (last : Bool) : Except SystemFault Way :=
  match t.get? (here ++ [name]) with
  | some (.link (.symbolic target)) => do
    let (start, names) ← origin here target
    return .through start names
  | some (.link (.hard home)) =>
    match t.get? home with
    | some (.file _) => .ok (.straight home)
    | _ => .error .notFound
  | some _ => .ok (.straight (here ++ [name]))
  | none =>
    if purpose = .existing ∨ ¬last then .error .notFound
    else if d.writable then .ok (.straight (here ++ [name]))
    else .error .denied

/-- Where a name leads from a place that has to be a directory. The name of a file that is to be
written may not have a slash behind it. -/
def step (t : FileTree) (purpose : Purpose) (here : Place) (name : List Char)
    (rest : List (List Char)) : Except SystemFault Way :=
  match t.get? here with
  | some (.directory d) =>
    if name = [] then .ok (.straight here)
    else if ¬d.searchable then .error .denied
    else if name = ['.'] then .ok (.straight here)
    else if name = ['.', '.'] then .ok (.straight here.dropLast)
    else if purpose = .writing ∧ rest ≠ [] ∧ rest.all (· = []) then .error .isADirectory
    else if byteLength name > 255 then .error .nameTooLong
    else t.lookUp purpose here d name rest.isEmpty
  | some (.file _) => .error .notADirectory
  | some (.link _) | none => .error .notFound

/-- The place that names lead to, if `onward` goes on behind symbolic links. -/
def walk (t : FileTree) (purpose : Purpose)
    (onward : Place → List (List Char) → Except SystemFault Place) :
    Place → List (List Char) → Except SystemFault Place
  | here, [] => .ok here
  | here, name :: names => do
    match ← t.step purpose here name names with
    | .straight place => t.walk purpose onward place names
    | .through start more => onward start (more ++ names)

/-- How many symbolic links a path may lead through. -/
def linkLimit : Nat := 40

/-- The place that names lead to through at most so many symbolic links. -/
def follow (t : FileTree) (purpose : Purpose) :
    Nat → Place → List (List Char) → Except SystemFault Place
  | 0 => t.walk purpose fun _ _ => .error .tooManyLinks
  | links + 1 => t.walk purpose (t.follow purpose links)

/-- The place of what is at the end of a path, as the path names it from a directory. -/
def find (t : FileTree) (workdir : Place) (p : Path) : Except SystemFault Place := do
  let (start, names) ← origin workdir p
  t.follow .existing linkLimit start names

/-- The entry at the end of a path, with its place. -/
def entry? (t : FileTree) (workdir : Place) (p : Path) : Option (Place × Entry) :=
  match t.find workdir p with
  | .ok place => (t.get? place).map (place, ·)
  | .error _ => none

/-- There is something at the end of a path. -/
def hasEntry (t : FileTree) (workdir : Place) (p : Path) : Bool :=
  (t.entry? workdir p).isSome

/-- There is a regular file at the end of a path. -/
def hasFile (t : FileTree) (workdir : Place) (p : Path) : Bool :=
  match t.entry? workdir p with
  | some (_, .file _) => true
  | _ => false

/-- There is a directory at the end of a path. -/
def hasDirectory (t : FileTree) (workdir : Place) (p : Path) : Bool :=
  match t.entry? workdir p with
  | some (_, .directory _) => true
  | _ => false

/-- The directory at the end of a path, and its place. -/
def directoryEntry (t : FileTree) (workdir : Place) (p : Path) :
    Except SystemFault (Place × Directory) := do
  let place ← t.find workdir p
  match t.get? place with
  | some (.directory d) => return (place, d)
  | some (.file _) => throw .notADirectory
  | some (.link _) | none => throw .notFound

/-- The directory at the end of a path, for a process to go there. -/
def directory (t : FileTree) (workdir : Place) (p : Path) : Except SystemFault Place := do
  let (place, d) ← t.directoryEntry workdir p
  if d.searchable then return place else throw .denied

/-- The names in the directory at the end of a path. -/
def list (t : FileTree) (workdir : Place) (p : Path) : Except SystemFault (List (List Char)) := do
  let (place, d) ← t.directoryEntry workdir p
  if d.listable then return t.names place else throw .denied

/-! ## Reading and writing -/

/-- The content of the file at the end of a path, whoever may read it. -/
def content? (t : FileTree) (workdir : Place) (p : Path) : Option Bytes :=
  match t.entry? workdir p with
  | some (_, .file f) => some f.content
  | _ => none

/-- The content of the file at the end of a path. -/
def read (t : FileTree) (workdir : Place) (p : Path) : Except SystemFault Bytes := do
  match t.get? (← t.find workdir p) with
  | some (.file f) => if f.readable then return f.content else throw .denied
  | some (.directory d) => throw (if d.listable then .isADirectory else .denied)
  | some (.link _) | none => throw .notFound

/-- The place at which a file is written that a path names. -/
def target (t : FileTree) (workdir : Place) (p : Path) : Except SystemFault Place := do
  let (start, names) ← origin workdir p
  let place ← t.follow .writing linkLimit start names
  match t.get? place with
  | some (.file _) | none => return place
  | some (.directory _) => throw .isADirectory
  | some (.link _) => throw .notFound

/-- The tree after a file was written in one piece. One that was there keeps its permissions. -/
def write (t : FileTree) (workdir : Place) (p : Path) (content : Bytes) :
    Except SystemFault FileTree := do
  let place ← t.target workdir p
  match t.get? place with
  | some (.file f) =>
    if f.writable then return t.put place (.file { f with content, program? := none })
    else throw .denied
  | _ => return t.put place (.file { content })

end FileTree

end CommitStamp
