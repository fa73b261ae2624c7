import CommitStamp.Host.Basic
import CommitStamp.Text.Cut
/-!
# Queries

A query runs the version control program once and hands its output, line by line, to a listener
until the listener has heard enough. The output is read to its end all the same, so how a query ends
does not depend on the listener.
-/

namespace CommitStamp.Vcs

open Text

/-! ## Lines of output -/

/-- The pieces between the newlines of an output. What follows the last newline is a piece once the
output has ended, unless it is empty. -/
def segments (output : Bytes) (ended : Bool) : List Bytes :=
  let pieces := splitAt 10 output
  match pieces.getLast? with
  | some last => if ended ∧ last ≠ [] then pieces else pieces.dropLast
  | none => []

/-- A text without the carriage returns at its end. -/
def trimReturns (s : List Char) : List Char :=
  (s.reverse.dropWhile (· = '\r')).reverse

/-- The lines of an output. -/
def outputLines (output : Bytes) (ended : Bool) : List (List Char) :=
  (segments output ended).map fun piece => trimReturns (Encoding.utf8.decode piece)

/-- A listener hears a line and tells whether it wants another. -/
abbrev Listener (σ : Type) := σ → List Char → σ × Bool

/-- What a listener knows after it heard lines, up to the first after which it wants no more. -/
def listen {σ : Type} (l : Listener σ) (s : σ) : List (List Char) → σ
  | [] => s
  | line :: lines =>
    match l s line with
    | (s, true) => listen l s lines
    | (s, false) => s

/-! ## Asking -/

/-- How a query ended. -/
inductive Outcome where
  | completed (ending : Ending)
  | timedOut
  /-- The program could not be started. -/
  | failed (fault : SystemFault)
deriving DecidableEq

/-- The wording of a failure to start. -/
def Outcome.failureMessage (fault : SystemFault) : String :=
  "spawn failed: " ++ fault.message

/-- What queries leave behind: the programs that they started, and error output that was let
through. -/
structure Trace where
  runs : List Run := []
  errors : Bytes := []
deriving DecidableEq

/-- One trace after another. -/
def Trace.append (a b : Trace) : Trace :=
  ⟨a.runs ++ b.runs, a.errors ++ b.errors⟩

instance : Append Trace := ⟨Trace.append⟩

/-- A version control program, and how it is asked. -/
structure Client where
  binary : Path
  /-- How many milliseconds a query may take. -/
  timeout : Nat := 1000
  /-- Error output is discarded. -/
  quiet : Bool := false
deriving DecidableEq

/-- One query in a directory: how it ended, what the listener knows, and what it left behind. -/
def Client.query {σ : Type} (c : Client) (h : Host) (directory : Path)
    (arguments : List (List Char)) (l : Listener σ) (s : σ) : Outcome × σ × Trace :=
  match h.start c.binary directory arguments with
  | .error fault => (.failed fault, s, {})
  | .ok (run, response) =>
    let ended := decide (response.duration < c.timeout)
    (if ended then .completed response.ending else .timedOut,
      listen l s (outputLines response.output ended),
      { runs := [run], errors := if c.quiet then [] else response.errors })

end CommitStamp.Vcs
