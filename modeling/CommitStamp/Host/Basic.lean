import CommitStamp.Calendar.Timestamp
import CommitStamp.Host.FileTree
import CommitStamp.Host.Interpreter
/-!
# The host

All that a run finds around it: files, a working directory, an environment and a clock. A program is
started in a directory: the new process goes there first, and only then is the program looked for,
by its path from there, or, if that is a bare name, in the directories of the search path. What is
found may be a text that names its interpreter. A program that runs may leave its process to another
one.
-/

namespace CommitStamp

open Text

/-- The surroundings of a run. -/
structure Host where
  files : FileTree
  /-- The working directory. -/
  workdir : Place
  /-- The search path for programs: directories with colons between them. -/
  searchPath? : Option (List Char)
  /-- The path of a version control program that goes before the configured one. -/
  binary? : Option (List Char)
  now : Timestamp

/-- A process that was started. -/
structure Run where
  /-- The file that was asked for. -/
  file : Place
  directory : Place
  arguments : List (List Char)
  /-- The programs that ran in the process, one after the other. -/
  executions : List Execution
deriving DecidableEq

namespace Host

/-- The path of the working directory, if that is still there. -/
def currentDirectory (h : Host) : Except SystemFault Path :=
  if h.files.isDirectory h.workdir then .ok h.workdir.path else .error .notFound

/-- There is a regular file at the end of a path. -/
def hasFile (h : Host) (p : Path) : Bool :=
  h.files.hasFile h.workdir p

/-! ## From a path to a program -/

/-- The file at the end of a path, as seen from a directory, and its place; everyone may run it. -/
def executable (h : Host) (directory : Place) (p : Path) : Except SystemFault (Place × File) := do
  let place ← h.files.find directory p
  match h.files.get? place with
  | some (.file f) => if f.executable then return (place, f) else throw .denied
  | some (.directory _) => throw .denied
  | some (.link _) | none => throw .notFound

/-- What a path leads to, ready to run. -/
structure Launch where
  /-- The file at the end of the path. -/
  file : Place
  program : Program
  /-- The path that led to the program itself. -/
  name : Path
  execution : Execution

/-- How many files in a row may be looked into for a program or the name of an interpreter. -/
def interpreterLimit : Nat := 6

/-- What the end of a path, as seen from a directory, runs with these arguments, if `depth` files
may be looked into. A file that names an interpreter needs it, and is run by it unless it is known
what comes of that; the path of the file then goes before the arguments. The empty path of an
interpreter leads to the directory, which is no program. -/
def launch (h : Host) (directory : Place) :
    Nat → Path → List Bytes → Except SystemFault Launch
  | 0, p, _ => do
    let _ ← h.executable directory p
    throw .tooManyLinks
  | depth + 1, p, arguments => do
    let (file, f) ← h.executable directory p
    let own? := f.program?.map fun program => Launch.mk file program p ⟨file, arguments⟩
    match interpreter? f.content with
    | none =>
      match own? with
      | some own => return own
      | none => throw .notRunnable
    | some i =>
      let next := if i.path.text = [] then throw .denied else
        h.launch directory depth i.path
          (i.argument?.toList ++ Encoding.utf8.encode p.text :: arguments)
      let l ← next
      return own?.getD { l with file }

/-! ## Searching a program -/

/-- The directories that are searched where the environment names none. -/
def defaultSearchPath : List Char :=
  "/bin:/usr/bin".toList

/-- The path of a name in a directory of a search path; the empty text is the directory that the
search starts in. -/
def searched (directory name : List Char) : Path :=
  ⟨if directory = [] then name else directory ++ '/' :: name⟩

/-- What the given name runs in the first of these directories that has it. A file that may not be
run does not end the search, but it is what the search complains about if there is no other. -/
def search (h : Host) (directory : Place) (name : List Char) (arguments : List Bytes)
    (fault : SystemFault) : List (List Char) → Except SystemFault Launch
  | [] => .error fault
  | d :: ds =>
    match h.launch directory interpreterLimit (searched d name) arguments with
    | .ok found => .ok found
    | .error .denied => h.search directory name arguments .denied ds
    | .error .notFound | .error .notADirectory => h.search directory name arguments fault ds
    | .error e => .error e

/-- What `binary` runs for a process in the given directory. -/
def resolveProgram (h : Host) (directory : Place) (binary : Path)
    (arguments : List Bytes) : Except SystemFault Launch :=
  if '/' ∈ binary.text then h.launch directory interpreterLimit binary arguments
  else if binary.text = [] then .error .notFound
  else
    h.search directory binary.text arguments .notFound
      (splitAt ':' (h.searchPath?.getD defaultSearchPath))

/-! ## Running it -/

/-- How often a process may be left to another program. One that is left more often is taken to go
on for longer than anybody waits. -/
def successionLimit : Nat := 16

/-- What a launched program does in a directory. -/
def enter (h : Host) (directory : Place) : Nat → Launch → Except SystemFault Response
  | 0, _ => return { duration := UInt64.size }
  | depth + 1, l =>
    l.program {
      name := l.name
      directory
      arguments := l.execution.arguments
      searchPath? := h.searchPath?
      isDirectory := h.files.isDirectory
      content? := fun p => (h.files.read directory p).toOption
      leaveTo := fun p arguments => do
        let next ← h.launch directory interpreterLimit p arguments
        let r ← h.enter directory depth next
        return { r with successors := next.execution :: r.successors } }

/-- The number of bytes from which on an argument is too long. -/
def argumentLimit : Nat := 131072

/-- The program `binary` run in a directory: the process, and what it does. -/
def start (h : Host) (binary directory : Path) (arguments : List (List Char)) :
    Except SystemFault (Run × Response) := do
  if (binary.text :: directory.text :: arguments).any (·.contains '\x00') then
    throw .zeroInArgument
  let here ← h.files.directory h.workdir directory
  let given := arguments.map Encoding.utf8.encode
  if given.any (·.length ≥ argumentLimit) then throw .argumentTooLong
  let l ← h.resolveProgram here binary given
  let r ← h.enter here successionLimit l
  return (⟨l.file, here, arguments, l.execution :: r.successors⟩, r)

end Host

end CommitStamp
