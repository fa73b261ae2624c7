import CommitStamp.Path
import CommitStamp.Text.Cut
import CommitStamp.Text.Terminal
/-!
# Reading a command line

Words are read from left to right. A value may be attached to its flag or follow as a word of its
own, so a flag that waits for one is kept as `pending`; it is settled, and complaints about it are
made, when the next flag or positional word arrives. A word that nothing accepts is complained about
at once, even if something is pending.
-/

namespace CommitStamp.CommandLine

open Text

/-! ## What may be given -/

/-- A value that a command line may hold. -/
inductive Slot where
  | input
  | output
  | format
  | config
deriving DecidableEq

/-- How messages name a value. -/
def Slot.shown : Slot → String
  | input => "[INPUT]"
  | output => "[OUTPUT]"
  | format => "--format <FORMAT>"
  | config => "--config <CONFIG>"

/-- A flag. -/
inductive Flag where
  | format
  | ignoreMissing
  | stopIfModified
  | revision
  | debug
  | config
  | version
  | help
deriving DecidableEq

namespace Flag

/-- All flags, in the order of the help text. -/
def all : List Flag :=
  [format, ignoreMissing, stopIfModified, revision, debug, config, version, help]

/-- The letter of a flag. -/
def short : Flag → Char
  | format => 'f'
  | ignoreMissing => 'i'
  | stopIfModified => 'M'
  | revision => 'r'
  | debug => 'D'
  | config => 'c'
  | version => 'v'
  | help => 'h'

/-- The name of a flag. -/
def long : Flag → String
  | format => "format"
  | ignoreMissing => "ignore-missing"
  | stopIfModified => "stop-if-modified"
  | revision => "revision"
  | debug => "debug"
  | config => "config"
  | version => "version"
  | help => "help"

/-- The value that follows a flag, if one does. -/
def slot? : Flag → Option Slot
  | format => some .format
  | config => some .config
  | _ => none

/-- How messages name a flag. -/
def shown (f : Flag) : String :=
  match f.slot? with
  | some slot => slot.shown
  | none => "--" ++ f.long

end Flag

/-- What is wrong with a command line. -/
inductive UsageError where
  | unexpectedArgument (word : List Char)
  | missingValue (slot : Slot)
  | repeatedValue (slot : Slot)
  | repeatedFlag (flag : Flag)
  | unexpectedValue (value : List Char) (flag : Flag)
deriving DecidableEq

/-- A word as messages show it: what it orders the terminal to do is taken out. -/
def shownWord (word : List Char) : String :=
  String.ofList (shown word)

/-- The wording of the error. -/
def UsageError.message : UsageError → String
  | unexpectedArgument word => "unexpected argument '" ++ shownWord word ++ "' found"
  | missingValue slot => "a value is required for '" ++ slot.shown ++ "' but none was supplied"
  | repeatedValue slot => "the argument '" ++ slot.shown ++ "' cannot be used multiple times"
  | repeatedFlag flag => "the argument '" ++ flag.shown ++ "' cannot be used multiple times"
  | unexpectedValue value flag =>
    "unexpected value '" ++ shownWord value ++ "' for '" ++ flag.shown
      ++ "' found; no more were expected"

/-- Why the reading of a command line ends early. -/
inductive Stop where
  | usage (e : UsageError)
  | version
  | help
deriving DecidableEq

/-! ## Reading words -/

/-- What has been read. -/
structure Reading where
  /-- The flags without a value. -/
  flags : List Flag := []
  values : List (Slot × List Char) := []
  /-- A value whose turn it is, with its text if that has come. -/
  pending : Option (Slot × Option (List Char)) := none
  /-- The positional values that have not come. -/
  positions : List Slot := [.input, .output]
deriving DecidableEq

namespace Reading

/-- The reading with a value. Only the format may be empty. -/
def give (r : Reading) (slot : Slot) (text : List Char) : Except Stop Reading :=
  if (r.values.lookup slot).isSome then .error (.usage (.repeatedValue slot))
  else if text = [] ∧ slot ≠ .format then .error (.usage (.missingValue slot))
  else .ok { r with values := (slot, text) :: r.values }

/-- The reading with nothing pending. -/
def settle (r : Reading) : Except Stop Reading :=
  match r.pending with
  | none => .ok r
  | some (slot, none) => .error (.usage (.missingValue slot))
  | some (slot, some text) => { r with pending := none }.give slot text

/-- The reading after a flag without a value. -/
def raise (r : Reading) (flag : Flag) : Except Stop Reading := do
  let r ← r.settle
  match flag with
  | .version => throw .version
  | .help => throw .help
  | _ =>
    if flag ∈ r.flags then throw (.usage (.repeatedFlag flag))
    else return { r with flags := flag :: r.flags }

/-- The reading after a flag whose value is to come. -/
def await (r : Reading) (slot : Slot) : Except Stop Reading := do
  let r ← r.settle
  return { r with pending := some (slot, none) }

/-- The reading after a flag with its value attached. -/
def attach (r : Reading) (slot : Slot) (text : List Char) : Except Stop Reading := do
  let r ← r.settle
  r.give slot text

/-- The reading after letters of flags. What follows the letter of a flag with a value is that
value; an equals sign before it does not count. -/
def letters (r : Reading) : List Char → Except Stop Reading
  | [] => .ok r
  | c :: rest =>
    match Flag.all.find? (·.short = c) with
    | none => .error (.usage (.unexpectedArgument ['-', c]))
    | some flag =>
      match flag.slot? with
      | none => do letters (← r.raise flag) rest
      | some slot =>
        match rest with
        | [] => r.await slot
        | '=' :: text => r.attach slot text
        | text => r.attach slot text

/-- The reading after the name of a flag, which an equals sign and a value may follow. -/
def named (r : Reading) (s : List Char) : Except Stop Reading :=
  let (name, value?) := match cutAt '=' s with
    | some (name, value) => (name, some value)
    | none => (s, none)
  match Flag.all.find? (·.long.toList = name) with
  | none => .error (.usage (.unexpectedArgument ('-' :: '-' :: name)))
  | some flag =>
    match flag.slot?, value? with
    | some slot, some text => r.attach slot text
    | some slot, none => r.await slot
    | none, some text => .error (.usage (.unexpectedValue text flag))
    | none, none => r.raise flag

/-- The reading after a positional word. -/
def position (r : Reading) (word : List Char) : Except Stop Reading :=
  match r.positions with
  | [] => .error (.usage (.unexpectedArgument word))
  | slot :: positions => do
    let r ← r.settle
    return { r with positions, pending := some (slot, some word) }

/-- The reading after a word that is no flag: the value that is waited for, or a positional one. -/
def plain (r : Reading) (word : List Char) : Except Stop Reading :=
  match r.pending with
  | some (slot, none) => .ok { r with pending := some (slot, some word) }
  | _ => r.position word

/-- The reading after a word. A single hyphen is no flag. -/
def word (r : Reading) (w : List Char) : Except Stop Reading :=
  match w with
  | '-' :: '-' :: s => r.named s
  | '-' :: c :: s => r.letters (c :: s)
  | w => r.plain w

/-- The reading after all words. After two hyphens every word is positional. -/
def words (r : Reading) : List (List Char) → Except Stop Reading
  | [] => r.settle
  | w :: ws => do
    if w = ['-', '-'] then (← ws.foldlM position r).settle
    else words (← r.word w) ws

end Reading

/-! ## Options -/

/-- What a command line asks for. -/
structure Options where
  input? : Option Path := none
  output? : Option Path := none
  /-- The template to print. -/
  format? : Option String := none
  /-- The path of the configuration file. -/
  config : Path := .ofString "revstamp.toml"
  ignoreMissing : Bool := false
  stopIfModified : Bool := false
  revision : Bool := false
  debug : Bool := false
deriving DecidableEq

/-- The options that were read. -/
def Options.ofReading (r : Reading) : Options :=
  let default : Options := {}
  { input? := (r.values.lookup .input).map Path.mk
    output? := (r.values.lookup .output).map Path.mk
    format? := (r.values.lookup .format).map String.ofList
    config := ((r.values.lookup .config).map Path.mk).getD default.config
    ignoreMissing := r.flags.contains .ignoreMissing
    stopIfModified := r.flags.contains .stopIfModified
    revision := r.flags.contains .revision
    debug := r.flags.contains .debug }

/-- The options that a command line gives, unless it asks for something else or is in error. -/
def Options.parse (arguments : List String) : Except Stop Options :=
  (Reading.words {} (arguments.map String.toList)).map ofReading

end CommitStamp.CommandLine
