/-!
# Words of a shell

A text written so that a shell reads it as one word. Between single quotes everything stands for
itself but the single quote, which is written outside of them with a backslash.
-/

namespace CommitStamp.Text

/-- One character of a word, between single quotes. -/
def shellChar (c : Char) : List Char :=
  if c = '\'' then ['\'', '\\', '\'', '\''] else [c]

/-- A text as one word of a shell. -/
def shellWord (s : List Char) : List Char :=
  '\'' :: (s.flatMap shellChar ++ ['\''])

end CommitStamp.Text
