/-!
# Faults of the system

Why the operating system refuses a file or a program. Messages quote its own words, most of them
with the number of the error.
-/

namespace CommitStamp

/-- A refusal of the operating system. -/
inductive SystemFault where
  | notFound
  | notRunnable
  | denied
  | notADirectory
  | isADirectory
  | nameTooLong
  | argumentTooLong
  | tooManyLinks
  /-- A path that holds the character zero. -/
  | zeroInPath
  /-- A program or an argument that holds the character zero. -/
  | zeroInArgument
  /-- A file that was to be read as text. -/
  | invalidText
deriving DecidableEq

/-- The words of a fault. -/
def SystemFault.words : SystemFault → String
  | notFound => "No such file or directory"
  | argumentTooLong => "Argument list too long"
  | notRunnable => "Exec format error"
  | denied => "Permission denied"
  | notADirectory => "Not a directory"
  | isADirectory => "Is a directory"
  | nameTooLong => "File name too long"
  | tooManyLinks => "Too many levels of symbolic links"
  | zeroInPath => "file name contained an unexpected NUL byte"
  | zeroInArgument => "nul byte found in provided data"
  | invalidText => "stream did not contain valid UTF-8"

/-- The number of a fault; the last three kinds have none. -/
def SystemFault.number? : SystemFault → Option Nat
  | notFound => some 2
  | argumentTooLong => some 7
  | notRunnable => some 8
  | denied => some 13
  | notADirectory => some 20
  | isADirectory => some 21
  | nameTooLong => some 36
  | tooManyLinks => some 40
  | zeroInPath | zeroInArgument | invalidText => none

/-- The wording of a fault. -/
def SystemFault.message (f : SystemFault) : String :=
  match f.number? with
  | some n => f.words ++ " (os error " ++ toString n ++ ")"
  | none => f.words

end CommitStamp
