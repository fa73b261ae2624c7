import CommitStamp.Host.Setup
import CommitStamp.Host.Shell
import CommitStamp.Text.Blank
import CommitStamp.Text.Lines
import CommitStamp.Text.ShellWord
/-!
# Stand-ins as shell scripts

A script that answers the two queries and keeps a journal of its runs in files beside it: arguments,
directories and process numbers. It lives in a directory of its own, together with an empty working
copy. `Script.text` is what stands in the file, and `Script.response` what a shell makes of it, with
the complaints of the shell where a line of the script fails.
-/

namespace CommitStamp.StandIn

open Text

/-- What a script answers. -/
structure Script where
  log : String := ""
  logExitCode : Int := 0
  status : String := ""
  errors : String := ""
  hangsOnLog : Bool := false
  hangsOnStatus : Bool := false
deriving DecidableEq

namespace Script

/-- The script that tells a commit with this hash and date. -/
def withHead (s : Script) (hash date : String) : Script :=
  { s with log := hash ++ " " ++ date }

/-! ## The directory of a script -/

/-- The directory with the script and its journal. -/
def binDirectory (home : Place) : Place := home ++ ["bin".toList]

/-- The script. -/
def binary (home : Place) : Place := binDirectory home ++ ["git".toList]

/-- The working copy. -/
def workdir (home : Place) : Place := home ++ ["work".toList]

/-- The journal of arguments. -/
def callsLog (home : Place) : Place := binDirectory home ++ ["calls.log".toList]

/-- The journal of directories. -/
def dirsLog (home : Place) : Place := binDirectory home ++ ["dirs.log".toList]

/-- The journal of process numbers. -/
def pidsLog (home : Place) : Place := binDirectory home ++ ["pids.log".toList]

/-- The permission bits of the script: everyone may run it, its owner may change it. -/
def mode : Nat := 0o755

/-! ## The text of a script -/

/-- A text as a word of the script. -/
def word (s : String) : String :=
  String.ofList (shellWord s.toList)

/-- A place as a word of the script. -/
def placeWord (p : Place) : String :=
  word p.path.toString

/-- The line that hangs. -/
def hangLine (hangs : Bool) : String :=
  if hangs then "exec sleep 30\n" else ""

/-- The lines that every run starts with: the journal, the error output, and the choice of an
answer. -/
def opening (s : Script) (home : Place) : String :=
  "#!/bin/sh\n"
    ++ "echo \"$*\" >> " ++ placeWord (callsLog home) ++ "\n"
    ++ "pwd >> " ++ placeWord (dirsLog home) ++ "\n"
    ++ "echo $$ >> " ++ placeWord (pidsLog home) ++ "\n"
    ++ "printf '%s' " ++ word s.errors ++ " >&2\n"
    ++ "case \"$1\" in\n"

/-- The lines that answer the query for the latest commit, without the one that ends the run. -/
def logLines (s : Script) : String :=
  hangLine s.hangsOnLog ++ "printf '%s' " ++ word s.log ++ "\n"

/-- The lines up to the answer to the query for the latest commit. -/
def beforeLog (s : Script) (home : Place) : String :=
  s.opening home ++ "log)\n"

/-- The lines up to the answer to the query for the state of the tree. -/
def beforeStatus (s : Script) (home : Place) : String :=
  s.beforeLog home ++ s.logLines ++ "exit " ++ toString s.logExitCode ++ "\n;;\n" ++ "status)\n"

/-- The script that lives in `home`. -/
def text (s : Script) (home : Place) : String :=
  s.beforeStatus home
    ++ hangLine s.hangsOnStatus ++ "printf '%s' " ++ word s.status ++ "\n;;\n" ++ "esac\n"

/-! ## Running a script -/

/-- The number of the line that comes after these. -/
def lineAfter (text : String) : Nat :=
  text.toList.count '\n' + 1

/-- The files of the journal, each with the line of the script that writes to it. -/
def journalLines (home : Place) : List (Nat × Place) :=
  [(2, callsLog home), (3, dirsLog home), (4, pidsLog home)]

/-- The complaints about a journal that cannot be written. -/
def journalComplaints (home : Place) (i : Invocation) : Bytes :=
  (journalLines home).flatMap fun (line, p) =>
    if i.isDirectory p then
      Shell.complaint i line ("cannot create ".toList ++ p.path.text ++ ": Is a directory".toList)
    else []

/-- The bytes that a text in the script makes. A shell drops the character zero when it reads. -/
def written (s : String) : Bytes :=
  Encoding.utf8.encode (s.toList.filter (· ≠ '\x00'))

/-- The error output before an answer. -/
def openingErrors (s : Script) (home : Place) (i : Invocation) : Bytes :=
  journalComplaints home i ++ written s.errors

/-- What hanging comes to, on the line after `before`: half a minute without an answer, unless the
program that sleeps is another one or is not there. -/
def hang (errors : Bytes) (i : Invocation) (before : String) : Response :=
  let r := Shell.exec i (lineAfter before) "sleep".toList [Encoding.utf8.encode "30".toList]
  { r with errors := errors ++ r.errors }

/-- The exit code that a shell makes of a number: its lowest byte, and 2 for a negative one, which a
shell refuses. -/
def exitCode (n : Int) : Nat :=
  if n < 0 then 2 else n.toNat % 256

/-- The answer to the query for the latest commit. -/
def answerLog (s : Script) (home : Place) (i : Invocation) : Response :=
  let errors := s.openingErrors home i
  if s.hangsOnLog then hang errors i (s.beforeLog home)
  else
    let refusal :=
      if s.logExitCode < 0 then
        Shell.complaint i (lineAfter (s.beforeLog home ++ s.logLines))
          ("exit: Illegal number: " ++ toString s.logExitCode).toList
      else []
    { output := written s.log, errors := errors ++ refusal
      ending := .exit (exitCode s.logExitCode) }

/-- The answer to the query for the state of the tree. -/
def answerStatus (s : Script) (home : Place) (i : Invocation) : Response :=
  let errors := s.openingErrors home i
  if s.hangsOnStatus then hang errors i (s.beforeStatus home)
  else { output := written s.status, errors }

/-- What a run of the script does, but for its journal. -/
def response (s : Script) (home : Place) (i : Invocation) : Response :=
  let query := Encoding.utf8.decode (i.arguments.headD [])
  if query = "log".toList then s.answerLog home i
  else if query = "status".toList then s.answerStatus home i
  else { errors := s.openingErrors home i }

/-- The tree with the script and its working copy in `home`. -/
def install (s : Script) (t : FileTree) (home : Place) : FileTree :=
  let t := (t.ensure [] (binDirectory home)).1
  let t := (t.ensure [] (workdir home)).1
  t.put (binary home) (.file {
    content := Encoding.utf8.encode (s.text home).toList
    executable := true
    program? := some fun i => .ok (s.response home i) })

/-! ## The journal -/

/-- The tree with bytes added to a file, if its directory is there. -/
def appendBytes (t : FileTree) (p : Place) (added : Bytes) : FileTree :=
  match t.get? p, t.get? p.dropLast with
  | some (.file f), _ => t.put p (.file { f with content := f.content ++ added, program? := none })
  | none, some (.directory _) => t.put p (.file { content := added })
  | _, _ => t

/-- The tree after the script ran in a directory with these arguments: that is in its journal. -/
def record (t : FileTree) (home directory : Place) (arguments : List Bytes) : FileTree :=
  let t := appendBytes t (callsLog home) (echo (joinWith 0x20 arguments))
  let t := appendBytes t (dirsLog home) (Encoding.utf8.encode (directory.path.text ++ ['\n']))
  appendBytes t (pidsLog home) (Encoding.utf8.encode ['1', '\n'])

/-- The lines of a file of the journal; none if it is not there or is no text. -/
def journal (t : FileTree) (p : Place) : List (List Char) :=
  match t.get? p with
  | some (.file f) =>
    if Encoding.utf8.WellFormed f.content then
      (lines (Encoding.utf8.decode f.content)).map (·.body)
    else []
  | _ => []

/-- The process number that a line of the journal holds: a number of 32 bits, which a plus may
precede, between blanks. -/
def processNumber? (line : List Char) : Option Nat :=
  let s := trimBlanks line
  (ofDecimal? ((after? ['+'] s).getD s)).filter (· < 0x100000000)

/-- The process numbers in the journal. -/
def processNumbers (t : FileTree) (home : Place) : List Nat :=
  (journal t (pidsLog home)).filterMap processNumber?

end Script

end CommitStamp.StandIn
