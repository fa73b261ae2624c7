import CommitStamp.Config.Basic
import CommitStamp.Text.Quoted
/-!
# Valid configurations

Some values have the right type and still make no sense. `Config.fault?` is the first such setting,
in the order of the file; a configuration without one is valid.
-/

namespace CommitStamp

open Text

/-- The longest time, in milliseconds, that an answer may be waited for. -/
def maxTimeout : UInt64 := 600000

/-- The severities, from the one that is logged least. -/
def logLevels : List String :=
  ["error", "warn", "info", "debug", "trace"]

/-- What makes a configuration invalid. -/
inductive Config.Fault where
  | timeout (milliseconds : UInt64)
  | emptyBinaryName
  /-- The file name of the program has a slash or a backslash. -/
  | nestedBinaryName (name : String)
  | emptyBinary
  | emptyFormat
  | logLevel (level : String)
deriving DecidableEq

/-- The wording of a fault. -/
def Config.Fault.message : Config.Fault → String
  | timeout n =>
    "resolver.timeout_ms must be in 1..=" ++ toString maxTimeout.toNat ++ ", got "
      ++ toString n.toNat
  | emptyBinaryName => "locator.binary_name must not be empty"
  | nestedBinaryName name =>
    "locator.binary_name must be a bare file name, got " ++ quoted name
      ++ "; use locator.binary for a full path"
  | emptyBinary => "locator.binary must not be empty when set"
  | emptyFormat => "template.default_format must not be empty"
  | logLevel level =>
    "logging.level must be one of [" ++ ", ".intercalate (logLevels.map quoted) ++ "], got "
      ++ quoted level

namespace Config

/-- The first fault of a configuration. -/
def fault? (c : Config) : Option Fault :=
  let name := c.locator.binaryName
  let timeout := c.resolver.timeout
  if timeout = 0 ∨ maxTimeout < timeout then some (.timeout timeout)
  else if name = "" then some .emptyBinaryName
  else if '/' ∈ name.toList ∨ '\\' ∈ name.toList then some (.nestedBinaryName name)
  else if c.locator.binary = some "" then some .emptyBinary
  else if c.defaultFormat = "" then some .emptyFormat
  else if c.logLevel ∉ logLevels then some (.logLevel c.logLevel)
  else none

/-- The configuration itself if it is valid, and its first fault if not. -/
def validate (c : Config) : Except Fault Config :=
  match c.fault? with
  | some fault => .error fault
  | none => .ok c

end Config

end CommitStamp
