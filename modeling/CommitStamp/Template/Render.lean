import CommitStamp.Template.Directive
import CommitStamp.Text.Cut
/-!
# Rendering

A template is rendered by substituting one directive after the other in the whole text, so the
expansion of one may complete a directive that comes later in `Directive.order`. Groups that no
directive recognises, braces that do not close, and all other text stay as they are.
-/

namespace CommitStamp.Template

open Text

/-- A text that a closing brace ends, with the group that the brace closes replaced: of the opening
braces in it the first that makes a group whose body `expand?` recognises. -/
def closeGroup? (expand? : List Char → Option (List Char)) : List Char → Option (List Char)
  | [] => none
  | c :: s =>
    match if c = '{' then expand? s else none with
    | some text => some text
    | none => (closeGroup? expand? s).map (c :: ·)

/-- Replaces, from left to right, each group whose body `expand?` recognises; the search goes on
after the group. The body of a group reaches to the first closing brace, so a group lies between two
closing braces that follow each other. -/
def substitute (expand? : List Char → Option (List Char)) (s : List Char) : List Char :=
  match _h : cutAt '}' s with
  | some (piece, rest) =>
    (closeGroup? expand? piece).getD (piece ++ ['}']) ++ substitute expand? rest
  | none => s
termination_by s.length
decreasing_by exact length_lt_of_cutAt _h

/-- All substitutions, one after the other. -/
def expand (r : Revision) (template : List Char) : List Char :=
  Directive.order.foldl (fun text d => substitute (d.expand? r) text) template

/-- The template with its directives replaced by what they stand for. -/
def render (template : String) (r : Revision) : String :=
  String.ofList (expand r template.toList)

/-- The template that is printed when no other is given: a mark for a dirty tree and the hash. -/
def default : String := "\x7b!\x7d\x7bcommit\x7d"

/-- Every form of directive with what it prints. -/
def directiveSummaries : List (String × String) :=
  [ ("\x7b!\x7d", "Prints ! if modified"),
    ("\x7b!:<text>\x7d", "Prints <text> if modified"),
    ("\x7bcommit\x7d", "Prints full commit hash"),
    ("\x7bcommit:<length>\x7d", "Prints first <length> chars of commit hash (5-40)"),
    ("\x7bdate\x7d", "Prints commit date as YYYYMMDD"),
    ("\x7bdate:ymd-\x7d", "Prints commit date as YYYY-MM-DD"),
    ("\x7btime\x7d, \x7btime:hms\x7d", "Prints commit time as HHMMSS"),
    ("\x7btime:hms:\x7d", "Prints commit time as HH:MM:SS"),
    ("\x7btime:hm\x7d", "Prints commit time as HHMM"),
    ("\x7btime:hm:\x7d", "Prints commit time as HH:MM"),
    ("\x7btime:h\x7d", "Prints commit hour as HH"),
    ("\x7btime:o\x7d", "Prints time zone offset like +0100"),
    ("\x7bxmin:<year>\x7d", "Prints minutes since year <year> in hexadecimal"),
    ("\x7bxmin:<year>:<length>\x7d", "Same, zero-padded to <length> digits") ]

end CommitStamp.Template
