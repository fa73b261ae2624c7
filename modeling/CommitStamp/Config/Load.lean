import CommitStamp.Config.Reader
import CommitStamp.Host.Basic
/-!
# Loading a configuration

A configuration file is UTF-8. Where no file is found the defaults hold.
-/

namespace CommitStamp.Config

/-- Why no configuration was loaded. -/
inductive LoadError where
  | unreadable (fault : SystemFault)
  | parse (e : ParseError)
deriving DecidableEq

namespace LoadError

/-- The wording of the error. -/
def message : LoadError → String
  | unreadable fault => "failed to read config file: " ++ fault.message
  | parse e => e.message

/-- The wording of what caused the error, if something else did. -/
def cause? : LoadError → Option String
  | unreadable fault => some fault.message
  | parse _ => none

end LoadError

/-- The configuration in a file. -/
def load (h : Host) (p : Path) : Except LoadError Config :=
  match h.files.read h.workdir p with
  | .error fault => .error (.unreadable fault)
  | .ok content =>
    if Encoding.utf8.WellFormed content then
      (parse (String.ofList (Encoding.utf8.decode content))).mapError .parse
    else .error (.unreadable .invalidText)

/-- The configuration in a file, or the defaults if nothing is there. -/
def loadOrDefault (h : Host) (p : Path) : Except LoadError Config :=
  if h.files.hasEntry h.workdir p then load h p else .ok {}

end CommitStamp.Config
