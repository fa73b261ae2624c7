/-!
# Lines and their terminators

A text is cut after each newline. The terminator of a line is a newline, together with a carriage
return right before it; the last line may have none. `text_lines` says that nothing is lost.
-/

namespace CommitStamp.Text

/-- How a line ends. -/
inductive Terminator where
  | none
  | newline
  | returnNewline
deriving DecidableEq

/-- The characters of a terminator. -/
def Terminator.text : Terminator → List Char
  | none => []
  | newline => ['\n']
  | returnNewline => ['\r', '\n']

/-- A line of a text. -/
structure Line where
  body : List Char
  terminator : Terminator
deriving DecidableEq

/-- The characters of a line. -/
def Line.text (l : Line) : List Char :=
  l.body ++ l.terminator.text

/-- The lines of a text. -/
def lines : List Char → List Line
  | [] => []
  | '\n' :: s => ⟨[], .newline⟩ :: lines s
  | '\r' :: '\n' :: s => ⟨[], .returnNewline⟩ :: lines s
  | c :: s =>
    match lines s with
    | [] => [⟨[c], .none⟩]
    | l :: ls => { l with body := c :: l.body } :: ls

theorem text_lines (s : List Char) : (lines s).flatMap Line.text = s := by
  fun_induction lines s with
  | case1 => rfl
  | case2 s ih => simp [Line.text, Terminator.text, ih]
  | case3 s ih => simp [Line.text, Terminator.text, ih]
  | case4 c s h₁ h₂ hs ih => simp_all [Line.text, Terminator.text]
  | case5 c s h₁ h₂ l ls hs ih => simp_all [Line.text]

end CommitStamp.Text
