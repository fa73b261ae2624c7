import CommitStamp.Config.Basic
import CommitStamp.Toml.Text
/-!
# Writing a configuration

The form in which a configuration is written: one table per section, with an empty line between
them, and in each its settings in their fixed order. A binary that is not set is left out.
-/

namespace CommitStamp.Config

open Toml

/-- A text on a line of its own in a list. -/
def listLine (s : String) : List Char :=
  "    ".toList ++ writeString s.toList ++ ",\n".toList

/-- A list of texts: on one line if there is at most one, and otherwise on a line for each. -/
def writeList : List String → List Char
  | [] => "[]".toList
  | [s] => '[' :: (writeString s.toList ++ [']'])
  | all => "[\n".toList ++ all.flatMap listLine ++ [']']

/-- A line that sets `name`. -/
def writeSetting (name : String) (value : List Char) : List Char :=
  name.toList ++ " = ".toList ++ value ++ ['\n']

/-- A line that opens the table `name`. -/
def writeHeader (name : String) : List Char :=
  '[' :: (name.toList ++ "]\n".toList)

/-- A truth value. -/
def writeFlag (b : Bool) : List Char :=
  if b then "true".toList else "false".toList

/-- The section on queries. -/
def Resolver.write (r : Resolver) : List Char :=
  writeHeader "resolver" ++ writeSetting "timeout_ms" (Text.decimal 1 r.timeout.toNat)
    ++ writeSetting "quiet" (writeFlag r.quiet)

/-- The section on the search. -/
def Locator.write (l : Locator) : List Char :=
  writeHeader "locator" ++ writeSetting "binary_name" (writeString l.binaryName.toList)
    ++ l.binary.elim [] (fun path => writeSetting "binary" (writeString path.toList))
    ++ writeSetting "use_path" (writeFlag l.usePath)
    ++ writeSetting "fallback_roots" (writeList l.fallbackRoots)

/-- The document that writes a configuration. -/
def write (c : Config) : List Char :=
  c.resolver.write ++ '\n' :: c.locator.write
    ++ '\n' :: (writeHeader "template"
      ++ writeSetting "default_format" (writeString c.defaultFormat.toList))
    ++ '\n' :: (writeHeader "logging" ++ writeSetting "level" (writeString c.logLevel.toList))

/-- The text that writes a configuration. -/
def toToml (c : Config) : String :=
  String.ofList c.write

end CommitStamp.Config
