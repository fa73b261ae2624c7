import CommitStamp.Config.Validity
import CommitStamp.Toml.Document
/-!
# Reading a configuration

A configuration file is a TOML document with one table per section. What it does not mention has its
default, and what nobody knows is ignored once it has been read. A section may also be an array,
which lists its settings in their fixed order; what comes after them there is not even read.
-/

namespace CommitStamp

open Toml (Value Table Document)

namespace Config

/-- Why a text is no configuration. -/
inductive ParseError where
  /-- It is no TOML, or a setting has a value of the wrong type. -/
  | malformed
  | invalid (fault : Fault)
deriving DecidableEq

/-- The wording of the error. -/
def ParseError.message : ParseError → String
  | malformed => "failed to parse TOML"
  | invalid fault => "validation error: " ++ fault.message

/-- The settings of a section: what is given for the setting with this position and name. Of a table
every value has to be readable, known or not. A date counts as a section that mentions nothing. -/
def settings? : Value → Option (Nat → String → Option Value)
  | .table t => if t.isReadable then some fun _ name => t.get? name.toList else none
  | .array items => some fun i _ => items[i]?
  | .tables earlier last => some fun i _ => ((earlier ++ [last])[i]?).map .table
  | .date _ => some fun _ _ => none
  | _ => none

/-- A given value read by `read?`, and the default where none is given. -/
def settingD {α : Type} (read? : Value → Option α) (default : α) : Option Value → Option α
  | some v => read? v
  | none => some default

/-- A text. -/
def text? : Value → Option String
  | .string s => some (String.ofList s)
  | _ => none

/-- A truth value. -/
def flag? : Value → Option Bool
  | .boolean b => some b
  | _ => none

/-- A number of milliseconds. -/
def milliseconds? : Value → Option UInt64
  | .integer n => if 0 ≤ n ∧ n < UInt64.size then some (.ofNat n.toNat) else none
  | _ => none

/-- A list of texts. -/
def texts? : Value → Option (List String)
  | .array items => items.mapM text?
  | _ => none

/-- The section on queries. -/
def resolver? (v : Value) : Option Resolver := do
  let given ← settings? v
  let default : Resolver := {}
  return {
    timeout := ← settingD milliseconds? default.timeout (given 0 "timeout_ms")
    quiet := ← settingD flag? default.quiet (given 1 "quiet") }

/-- The section on the search. -/
def locator? (v : Value) : Option Locator := do
  let given ← settings? v
  let default : Locator := {}
  return {
    binaryName := ← settingD text? default.binaryName (given 0 "binary_name")
    binary := ← settingD (fun v => (text? v).map some) default.binary (given 1 "binary")
    usePath := ← settingD flag? default.usePath (given 2 "use_path")
    fallbackRoots := ← settingD texts? default.fallbackRoots (given 3 "fallback_roots") }

/-- A section with one text. -/
def onlyText? (name default : String) (v : Value) : Option String := do
  let given ← settings? v
  settingD text? default (given 0 name)

/-- The names of the sections. -/
def sectionNames : List String :=
  ["resolver", "locator", "template", "logging"]

/-- What is no section can be read, although nobody asks for it. -/
def restIsReadable (t : Table) : Bool :=
  t.entries.all fun (k, v) => sectionNames.contains (String.ofList k) || v.isReadable

/-- The configuration that a document holds. -/
def ofTable? (t : Table) : Option Config := do
  let default : Config := {}
  guard (restIsReadable t)
  return {
    resolver := ← settingD resolver? default.resolver (t.get? "resolver".toList)
    locator := ← settingD locator? default.locator (t.get? "locator".toList)
    defaultFormat :=
      ← settingD (onlyText? "default_format" default.defaultFormat) default.defaultFormat
        (t.get? "template".toList)
    logLevel :=
      ← settingD (onlyText? "level" default.logLevel) default.logLevel (t.get? "logging".toList) }

/-- The valid configuration that a text writes. -/
def parse (text : String) : Except ParseError Config :=
  match (Document.read? text.toList).bind ofTable? with
  | none => .error .malformed
  | some c => c.validate.mapError .invalid

end Config

end CommitStamp
