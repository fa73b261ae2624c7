import CommitStamp.Template.Render
/-!
# Configuration

What a user can set: how the version control program is asked and searched for, which template is
printed, and how much is logged. Every setting has a default. `Config.build` makes configurations
step by step for programs that bring their own version control program and want no other to be
found.
-/

namespace CommitStamp

/-- How the version control program is asked. -/
structure Config.Resolver where
  /-- How many milliseconds an answer may take. -/
  timeout : UInt64 := 1000
  /-- Its error messages are discarded. -/
  quiet : Bool := false
deriving DecidableEq

/-- Where the version control program is searched for. -/
structure Config.Locator where
  /-- The file name of the program. -/
  binaryName : String := "git"
  /-- The path of the program, tried before all other places. -/
  binary : Option String := none
  /-- The directories of the search path are tried. -/
  usePath : Bool := true
  /-- Directories in or under which the program may be installed. -/
  fallbackRoots : List String := ["/usr/local", "/opt/homebrew", "/usr"]
deriving DecidableEq

/-- A configuration. -/
structure Config where
  resolver : Config.Resolver := {}
  locator : Config.Locator := {}
  /-- The template that is printed when the command line gives none. -/
  defaultFormat : String := Template.default
  /-- The least severity that is logged. -/
  logLevel : String := "warn"
deriving DecidableEq

namespace Config

/-- The configuration without a search path and without fallback roots: only a binary that is named
can be found. -/
def isolated : Config :=
  { locator := { usePath := false, fallbackRoots := [] } }

/-- One setting of a configuration. -/
inductive Setting where
  | binary (path : String)
  /-- One root more, after those that are there. -/
  | fallbackRoot (path : String)
  | defaultFormat (template : String)
  | timeout (milliseconds : UInt64)
  | quiet (on : Bool)
deriving DecidableEq

/-- The configuration with a setting made. -/
def set (c : Config) : Setting → Config
  | .binary path => { c with locator.binary := some path }
  | .fallbackRoot path => { c with locator.fallbackRoots := c.locator.fallbackRoots ++ [path] }
  | .defaultFormat template => { c with defaultFormat := template }
  | .timeout milliseconds => { c with resolver.timeout := milliseconds }
  | .quiet on => { c with resolver.quiet := on }

/-- The isolated configuration with these settings made one after the other. Nothing is checked. -/
def build (settings : List Setting) : Config :=
  settings.foldl set isolated

end Config

end CommitStamp
