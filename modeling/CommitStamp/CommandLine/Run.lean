import CommitStamp.CommandLine.Help
import CommitStamp.Config.Load
import CommitStamp.Stamp.Job
/-!
# Running a command line

A run prints the revision of a working copy, or stamps it into a file. Everything that it does shows
in its `Exit`: the code, what it printed, the files afterwards, and the programs that it started.
-/

namespace CommitStamp.CommandLine

open Text

/-- What a run leaves behind. -/
structure Exit where
  code : Nat
  output : String := ""
  /-- Error output, with what programs that were started added to it. -/
  errors : Bytes := []
  files : FileTree
  runs : List Run := []

/-- Why a run fails. -/
inductive Failure where
  | config (e : Config.LoadError)
  /-- The working directory is not there any more. -/
  | workdir (fault : SystemFault)
  | stamp (e : Stamp.Error)
deriving DecidableEq

namespace Failure

/-- The wording of the failure. -/
def message : Failure → String
  | config e => e.message
  | workdir fault => fault.message
  | stamp e => e.message

/-- The wording of what caused the failure, if something else did. -/
def cause? : Failure → Option String
  | config e => e.cause?
  | workdir _ => none
  | stamp e => e.cause?

/-- A text with every line moved to the right. -/
def indented (s : String) : List Char :=
  "    ".toList ++ s.toList.flatMap fun c => if c = '\n' then "\n    ".toList else [c]

/-- The report on a failure. -/
def report (f : Failure) : List Char :=
  let cause := match f.cause? with
    | some cause => "\n\nCaused by:\n".toList ++ indented cause
    | none => []
  "Error: ".toList ++ f.message.toList ++ cause ++ ['\n']

end Failure

/-- The report on a command line that is in error. -/
def UsageError.report (e : UsageError) : List Char :=
  ("error: " ++ e.message ++ "\n\n" ++ usage ++ "\n\nFor more information, try '--help'.\n").toList

/-- The end of a run that failed, after what it did before. -/
def failed (h : Host) (trace : Vcs.Trace) (f : Failure) : Exit where
  code := 1
  errors := trace.errors ++ Encoding.utf8.encode f.report
  files := h.files
  runs := trace.runs

namespace Options

/-- The run prints the revision and stamps no file. -/
def prints (o : Options) : Bool :=
  o.revision || (o.input?.isNone && o.output?.isNone)

/-- The working copy: the directory of the input file, or the working directory. -/
def workingCopy (o : Options) (h : Host) : Except SystemFault Path :=
  match o.input?.bind Path.parent? with
  | some parent => if parent.text = [] then h.currentDirectory else .ok parent
  | none => h.currentDirectory

/-- The template that is printed. -/
def template (o : Options) (c : Config) : String :=
  o.format?.getD c.defaultFormat

/-- The file that is stamped. -/
def job (o : Options) : Stamp.Job where
  input := o.input?.getD ⟨[]⟩
  output := o.output?.getD ⟨[]⟩
  refuseDirty := o.stopIfModified

/-- A run under a configuration and with a revision. -/
def finish (o : Options) (h : Host) (c : Config) (r : Revision) (trace : Vcs.Trace) : Exit :=
  if o.prints then
    { code := 0, output := Template.render (o.template c) r ++ "\n", errors := trace.errors,
      files := h.files, runs := trace.runs }
  else
    match o.job.run h r with
    | (.ok _, files) => { code := 0, errors := trace.errors, files, runs := trace.runs }
    | (.error e, files) => { failed h trace (.stamp e) with files }

/-- A run with these options. -/
def run (o : Options) (h : Host) : Exit :=
  match Config.loadOrDefault h o.config with
  | .error e => failed h {} (.config e)
  | .ok c =>
    match o.workingCopy h with
    | .error fault => failed h {} (.workdir fault)
    | .ok directory =>
      match (Vcs.Lookup.ofConfig h c).revision h directory o.ignoreMissing with
      | (.error e, trace) => failed h trace (.stamp (.noRevision e))
      | (.ok r, trace) => o.finish h c r trace

end Options

/-- A run of a command line. -/
def run (h : Host) (arguments : List String) : Exit :=
  match Options.parse arguments with
  | .ok o => o.run h
  | .error .help => { code := 0, output := helpText, files := h.files }
  | .error .version => { code := 0, output := versionText, files := h.files }
  | .error (.usage e) => { code := 2, errors := Encoding.utf8.encode e.report, files := h.files }

end CommitStamp.CommandLine
