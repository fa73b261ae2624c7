import CommitStamp.CommandLine.Run
import CommitStamp.Host.Setup
import Mathlib.Tactic.DeprecateTo
/-!
# The command

The command line on the files and the clock of the machine. What a run may look at is read first,
the run is computed, and then the output file is written if it changed. No program is started from
here, so the host is one on which a version control program may be found but not run.
-/

namespace CommitStamp.Main

/-- The tree with what the machine has at the end of a path. -/
def look (workdir : Place) (files : FileTree) (p : Path) : IO FileTree := do
  try
    let content ← IO.FS.readBinFile p.toString
    return (files.writeWithParents workdir p content.toList).toOption.getD files
  catch
  | .inappropriateType .. => return files.makeDirectories workdir p
  | _ => return files

/-- The paths that a run looks at after it has its configuration. -/
def paths (o : CommandLine.Options) (h : Host) (c : Config) : List Path :=
  let search := Vcs.Search.ofConfig h c.locator
  let files := [o.input?, o.output?].filterMap id
  [.explicit, .searchPath, .root].flatMap (search.proposals h)
    ++ files ++ files.filterMap Path.parent?

/-- The machine as a run with these options sees it. -/
def survey (o : CommandLine.Options) (h : Host) : IO Host := do
  let h := { h with files := ← look h.workdir h.files o.config }
  match Config.loadOrDefault h o.config with
  | .error _ => return h
  | .ok c => return { h with files := ← (paths o h c).foldlM (look h.workdir) h.files }

/-- What a local clock shows, as a timestamp. -/
def timestamp? (clock : Std.Time.DateTime) : Option Timestamp := do
  let date ← Date.of? clock.year.toInt clock.month.val.toNat clock.day.val.toNat
  let time ← TimeOfDay.of? clock.hour.val.toNat clock.minute.val.toNat clock.second.val.toNat
    clock.nanosecond.val.toNat
  Timestamp.of? date time clock.offset.second.val

/-- The time of the machine, in its time zone if that is known. The clock of the standard library
comes with the module that is imported from Mathlib. -/
def now : IO Timestamp := do
  let clock ← Std.Time.DateTime.now <|>
    return .ofTimestamp (← Std.Time.Timestamp.now) .UTC
  match timestamp? clock with
  | some t => return t
  | none => throw (IO.userError "the clock shows no time of the calendar")

/-- Writes the file at the end of a path if it changed. -/
def save (before : Host) (after : FileTree) (p : Path) : IO Unit := do
  match after.content? before.workdir p with
  | some content =>
    if before.files.content? before.workdir p ≠ some content then
      IO.FS.writeBinFile p.toString (ByteArray.mk content.toArray)
  | none => return ()

end CommitStamp.Main

open CommitStamp in
/-- Runs a command line. -/
def main (arguments : List String) : IO UInt32 := do
  let workdir := (Text.splitAt '/' (← IO.currentDir).toString.toList).filter (· ≠ [])
  let h : Host := {
    files := (FileTree.empty.ensure [] workdir).1
    workdir
    searchPath? := (← IO.getEnv "PATH").map String.toList
    binary? := (← IO.getEnv Vcs.binaryVariable).map String.toList
    now := ← Main.now }
  let options := (CommandLine.Options.parse arguments).toOption
  let h ← match options with
    | some o => Main.survey o h
    | none => pure h
  let exit := CommandLine.run h arguments
  for p in (options.bind (·.output?)).toList do
    Main.save h exit.files p
  IO.print exit.output
  IO.eprint (String.ofList (Encoding.utf8.decode exit.errors))
  return exit.code.toUInt32
