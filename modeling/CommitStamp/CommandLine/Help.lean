import CommitStamp.CommandLine.Options
import CommitStamp.Template.Render
/-!
# Help

The texts that a command line may ask for.
-/

namespace CommitStamp.CommandLine

/-- The release, where it was built from, and how. -/
def version : String := "0.1.0 (unknown, debug)"

/-- The text that tells the version. -/
def versionText : String :=
  "revstamp " ++ version ++ "\n"

/-- The line that shows how the program is called. -/
def usage : String := "Usage: revstamp [OPTIONS] [INPUT] [OUTPUT]"

/-- What a flag does. -/
def Flag.summary : Flag → String
  | format => "Format for --revision output"
  | ignoreMissing => "Use an all-zero revision when no working copy is found"
  | stopIfModified => "Fail if the working copy contains uncommitted changes"
  | revision => "Print the revision using --format"
  | debug => "Print debug diagnostics on standard error"
  | config => "Path to configuration file [default: revstamp.toml]"
  | version => "Print version information"
  | help => "Print help"

/-- A line of a list: what is explained, and on the right of it the explanation. -/
def item (width : Nat) (subject explanation : String) : String :=
  "  " ++ String.ofList (subject.toList.rightpad width ' ') ++ explanation ++ "\n"

/-- The line on a flag. -/
def Flag.line (f : Flag) : String :=
  let name := match f.slot? with
    | some slot => slot.shown
    | none => "--" ++ f.long
  item 24 (String.ofList ['-', f.short] ++ ", " ++ name) f.summary

/-- The help text. -/
def helpText : String :=
  "Command-line front end that stamps build artifacts with VCS revision info\n\n"
    ++ usage ++ "\n\nArguments:\n"
    ++ item 10 Slot.input.shown "Template file to patch; its directory is the working copy"
    ++ item 10 Slot.output.shown "Patched file to write (.cs or .vb)"
    ++ "\nOptions:\n" ++ String.join (Flag.all.map Flag.line)
    ++ "\nFormat placeholders:\n"
    ++ String.join (Template.directiveSummaries.map fun (directive, summary) =>
      item 24 directive summary)
    ++ "\nExamples:\n"
    ++ "  revstamp -r -f \"MyApp \x7bcommit:8\x7d/\x7bdate\x7d\x7b!\x7d\"\n"
    ++ "  revstamp -M Properties/AssemblyInfo.cs.in Properties/AssemblyInfo.cs\n\n"
    ++ "In the input file, the AssemblyInformationalVersion attribute value is "
    ++ "expanded with the same placeholders.\n"

end CommitStamp.CommandLine
