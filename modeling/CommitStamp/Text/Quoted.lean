import CommitStamp.Text.Numeral
import CommitStamp.Text.Unprintable
/-!
# Quoted text

The form in which messages show a text that may hold anything: in double quotes, with backslash
escapes for quotes, backslashes and the common controls, and the number of every other character
that does not print by itself.
-/

namespace CommitStamp.Text

/-- One character between the quotes. -/
def quotedChar (c : Char) : List Char :=
  match c with
  | '\x00' => ['\\', '0']
  | '\t' => ['\\', 't']
  | '\r' => ['\\', 'r']
  | '\n' => ['\\', 'n']
  | '"' => ['\\', '"']
  | '\\' => ['\\', '\\']
  | _ =>
    if isUnprintable c then '\\' :: 'u' :: '{' :: (hexadecimal 1 c.toNat ++ ['}']) else [c]

/-- The text in double quotes. -/
def quoted (s : String) : String :=
  String.ofList ('"' :: (s.toList.flatMap quotedChar ++ ['"']))

end CommitStamp.Text
