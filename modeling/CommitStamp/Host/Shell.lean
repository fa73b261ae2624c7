import CommitStamp.Host.Basic
import CommitStamp.Text.Numeral
import CommitStamp.Text.ShellEcho
/-!
# The shell

The program that scripts are written for. A script can leave its process to a program with `exec`,
which searches the program by rules of the shell's own. `Shell.program` reads the plainest of
scripts, those whose lines are single commands of words without quotes; there is no more to a file
that is no script at all and comes to the shell because the system cannot run it.
-/

namespace CommitStamp.Shell

open Text

/-- The path of the shell. -/
def path : Path := ⟨"/bin/sh".toList⟩

/-- A complaint of the shell about a line of a script. -/
def complaint (i : Invocation) (line : Nat) (fault : List Char) : Bytes :=
  Encoding.utf8.encode (i.name.text ++ ": ".toList ++ (toString line).toList ++ ": ".toList
    ++ fault ++ ['\n'])

/-! ## Running programs -/

/-- The words for a program that cannot be run. -/
def faultWords : SystemFault → String
  | .notFound | .notADirectory => "not found"
  | fault => fault.words

/-- The exit code for a program that cannot be run: it tells whether there is one. -/
def faultCode : SystemFault → Nat
  | .notFound | .notADirectory | .nameTooLong | .tooManyLinks => 127
  | _ => 126

/-- What the file at the end of a path does. A file that the system cannot run is taken for a
script. -/
def runFile (i : Invocation) (p : Path) (arguments : List Bytes) : Except SystemFault Response :=
  match i.leaveTo p arguments with
  | .error .notRunnable => i.leaveTo path (Encoding.utf8.encode p.text :: arguments)
  | result => result

/-- What the given name runs in the first of these directories where it can be run. If it can be
run in none, the last that has it tells why. -/
def runSearched (i : Invocation) (name : List Char) (arguments : List Bytes) (fault : SystemFault) :
    List (List Char) → Except SystemFault Response
  | [] => .error fault
  | d :: ds =>
    match runFile i (Host.searched d name) arguments with
    | .ok r => .ok r
    | .error .notFound | .error .notADirectory => runSearched i name arguments fault ds
    | .error e => runSearched i name arguments e ds

/-- The directories that are searched where the environment names none. -/
def defaultSearchPath : List Char :=
  "/usr/local/sbin:/usr/local/bin:/usr/sbin:/usr/bin:/sbin:/bin".toList

/-- What a command does that is no command of the shell's own. -/
def run (i : Invocation) (name : List Char) (arguments : List Bytes) :
    Except SystemFault Response :=
  if '/' ∈ name then runFile i ⟨name⟩ arguments
  else
    runSearched i name arguments .notFound (splitAt ':' (i.searchPath?.getD defaultSearchPath))

/-- What becomes of a process whose script says `exec` on the given line: the program's doings, or
the end of the script. -/
def exec (i : Invocation) (line : Nat) (name : List Char) (arguments : List Bytes) : Response :=
  match run i name arguments with
  | .ok r => r
  | .error e =>
    { errors := complaint i line ("exec: ".toList ++ name ++ (": " ++ faultWords e).toList)
      ending := .exit (faultCode e) }

/-! ## Plain scripts -/

/-- The exit code that a command leaves to the commands after it. -/
def status : Ending → Nat
  | .exit code => code
  | .signal number => 128 + number

/-- What is done before, and then this. -/
def after (before next : Response) : Response where
  output := before.output ++ next.output
  errors := before.errors ++ next.errors
  duration := before.duration + next.duration
  ending := next.ending
  successors := before.successors ++ next.successors

/-- The words of a line. A word that starts with a number sign starts a comment. -/
def words (line : Bytes) : List Bytes :=
  let isGap (b : UInt8) := b == 0x20 || b == 0x09
  ((splitAt 0x20 (line.map fun b => if isGap b then 0x20 else b)).filter (· ≠ [])).takeWhile
    (·.head? ≠ some 0x23)

/-- What `echo` writes for words; before them it may be told to end without a newline. -/
def echoWords : List Bytes → Bytes
  | [0x2d, 0x6e] :: words => (echoBytes (joinWith 0x20 words)).1
  | words => echo (joinWith 0x20 words)

/-- What `exit` does. -/
def exit (i : Invocation) (line before : Nat) : List Bytes → Response
  | [] => { ending := .exit before }
  | code :: _ =>
    match ofDecimal? (Encoding.utf8.decode code) with
    | some n => { ending := .exit (n % 256) }
    | none =>
      { errors := complaint i line ("exit: Illegal number: ".toList ++ Encoding.utf8.decode code)
        ending := .exit 2 }

/-- What a command on the given line does that leaves the script running. -/
def command (i : Invocation) (line : Nat) (name : String) (arguments : List Bytes) : Response :=
  match name with
  | ":" | "true" => {}
  | "false" => { ending := .exit 1 }
  | "echo" => { output := echoWords arguments }
  | _ =>
    match run i name.toList arguments with
    | .ok r => r
    | .error e =>
      { errors := complaint i line (name ++ ": " ++ faultWords e).toList
        ending := .exit (faultCode e) }

/-- What the lines of a script do from the given one on, after a command with that exit code. -/
def runLines (i : Invocation) (line before : Nat) : List Bytes → Response
  | [] => { ending := .exit before }
  | l :: ls =>
    match words l with
    | [] => runLines i (line + 1) before ls
    | name :: arguments =>
      match String.ofList (Encoding.utf8.decode name), arguments with
      | "exit", arguments => exit i line before arguments
      | "exec", next :: arguments => exec i line (Encoding.utf8.decode next) arguments
      | "exec", [] => runLines i (line + 1) 0 ls
      | name, arguments =>
        let r := command i line name arguments
        after r (runLines i (line + 1) (status r.ending) ls)

/-- The shell runs the script that its first argument leads to; without one it has nothing to do. A
byte zero in a script does not count. -/
def program : Program := fun i =>
  match i.arguments with
  | [] => .ok {}
  | script :: arguments =>
    let p : Path := ⟨Encoding.utf8.decode script⟩
    match i.content? p with
    | some content =>
      .ok (runLines { i with name := p, arguments } 1 0 (splitAt 0x0a (content.filter (· ≠ 0))))
    | none =>
      .ok {
        errors := complaint i 0 ("cannot open ".toList ++ p.text ++ ": No such file".toList)
        ending := .exit 2 }

end CommitStamp.Shell
