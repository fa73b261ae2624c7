import CommitStamp.StandIn.Script
/-!
# What a shell makes of a word in a script

A shell reads a line from left to right and takes the quotes away as it goes (`ShellReader`). Its
rules are those that POSIX gives for quoting: nothing is special between single quotes, a backslash
outside of quotes keeps the character after it as it is, and a few characters keep a meaning between
double quotes. A line with an operator in it, or with something that may be expanded, is not read at
all: `shellWords?` answers for a line only if there is nothing but words in it.

Wherever a reader is outside of quotes, a text written by `shellWord` goes to the word that it is
reading, whole and unchanged, and leaves it outside of quotes (`ShellReader.run_shellWord`). The
words of a line (`shellWords?_joinWith`) and of a command of a script follow from that piece by
piece.
-/

namespace CommitStamp.Text

/-! ## Reading -/

/-- How a shell takes the next character. -/
inductive Quoting
  | bare
  /-- It comes after a backslash that is outside of quotes. -/
  | escaped
  | single
  | double
  /-- It comes after a backslash between double quotes. -/
  | doubleEscaped
deriving DecidableEq

/-- The characters between two words. -/
def isShellBlank (c : Char) : Bool :=
  c = ' ' || c = '\t'

/-- The characters that have a meaning of their own outside of quotes, or may have one where they
stand; quotes, backslashes and blanks are not among them. -/
def isShellSpecial (c : Char) : Bool :=
  c ∈ "|&;<>()$`\n*?[#~=%".toList

/-- The characters that have a meaning of their own between double quotes. A backslash before one of
them takes it away. -/
def isDoubleSpecial (c : Char) : Bool :=
  c ∈ "$`\"\\".toList

/-- What a shell has read of a line. -/
structure ShellReader where
  /-- The words that came to an end. -/
  words : List (List Char) := []
  /-- The word that has begun, as far as it was read. It may be empty, as two quotes are. -/
  word? : Option (List Char) := none
  quoting : Quoting := .bare
deriving DecidableEq

namespace ShellReader

/-- These characters belong to the word. If there is none, they begin it. -/
def add (r : ShellReader) (s : List Char) : ShellReader :=
  { r with word? := some (r.word?.getD [] ++ s) }

/-- The word ends, if there is one. -/
def close (r : ShellReader) : ShellReader :=
  { r with words := r.words ++ r.word?.toList, word? := none }

/-- The characters that follow are taken in that way. -/
def turn (r : ShellReader) (q : Quoting) : ShellReader :=
  { r with quoting := q }

/-- One character is read; none if it makes the line more than words. -/
def step (r : ShellReader) (c : Char) : Option ShellReader :=
  match r.quoting, c with
  | .bare, '\'' => some ((r.add []).turn .single)
  | .bare, '"' => some ((r.add []).turn .double)
  | .bare, '\\' => some (r.turn .escaped)
  | .bare, c =>
    if isShellBlank c then some r.close
    else if isShellSpecial c then none
    else some (r.add [c])
  -- the line goes on after a newline that has a backslash before it
  | .escaped, '\n' => some (r.turn .bare)
  | .escaped, c => some ((r.add [c]).turn .bare)
  | .single, '\'' => some (r.turn .bare)
  | .single, c => some (r.add [c])
  | .double, '"' => some (r.turn .bare)
  | .double, '\\' => some (r.turn .doubleEscaped)
  | .double, c => if isDoubleSpecial c then none else some (r.add [c])
  | .doubleEscaped, '\n' => some (r.turn .double)
  | .doubleEscaped, c =>
    some ((r.add (if isDoubleSpecial c then [c] else ['\\', c])).turn .double)

/-- A text is read. -/
def run (r : ShellReader) (s : List Char) : Option ShellReader :=
  s.foldlM step r

/-- The words at the end of the text, where no quotes may be open. -/
def finish? (r : ShellReader) : Option (List (List Char)) :=
  if r.quoting = .bare then some r.close.words else none

end ShellReader

/-- The words of a text; none if it is not made of words alone, or if a word in it has no end. -/
def shellWords? (s : List Char) : Option (List (List Char)) :=
  (ShellReader.run {} s).bind ShellReader.finish?

/-! ## Reading what was quoted -/

namespace ShellReader

variable {r : ShellReader} {b c : Char}

@[simp] theorem quoting_add (r : ShellReader) (s : List Char) : (r.add s).quoting = r.quoting := rfl

@[simp] theorem quoting_turn (r : ShellReader) (q : Quoting) : (r.turn q).quoting = q := rfl

@[simp] theorem turn_turn (r : ShellReader) (q q' : Quoting) : (r.turn q).turn q' = r.turn q' := rfl

@[simp] theorem turn_add (r : ShellReader) (q : Quoting) (s : List Char) :
    (r.turn q).add s = (r.add s).turn q :=
  rfl

@[simp] theorem add_add (r : ShellReader) (s t : List Char) :
    (r.add s).add t = r.add (s ++ t) := by
  simp only [add, Option.getD_some, List.append_assoc]

theorem turn_bare (h : r.quoting = .bare) : r.turn .bare = r := by
  rw [turn, ← h]

@[simp] theorem run_nil (r : ShellReader) : r.run [] = some r := rfl

theorem run_cons (r : ShellReader) (c : Char) (s : List Char) :
    r.run (c :: s) = (r.step c).bind (·.run s) :=
  List.foldlM_cons

theorem run_append (r : ShellReader) (s t : List Char) :
    r.run (s ++ t) = (r.run s).bind (·.run t) :=
  List.foldlM_append

/-! ### One character -/

theorem step_single (hr : r.quoting = .single) (hc : c ≠ '\'') : r.step c = some (r.add [c]) := by
  unfold step
  rw [hr]
  split <;> simp_all

theorem step_blank (hr : r.quoting = .bare) (hb : isShellBlank b = true) :
    r.step b = some r.close := by
  rw [isShellBlank, Bool.or_eq_true, decide_eq_true_eq, decide_eq_true_eq] at hb
  rcases hb with rfl | rfl <;> simp [step, hr, isShellBlank]

/-- **Between single quotes**, a character that is written by `shellChar` is read as itself. A quote
closes the quotes around it, comes after a backslash, and opens them again. -/
theorem run_shellChar (r : ShellReader) (c : Char) :
    (r.turn .single).run (shellChar c) = some ((r.add [c]).turn .single) := by
  by_cases hc : c = '\''
  · subst hc
    show (r.turn .single).run ['\'', '\\', '\'', '\''] = _
    simp [run_cons, step]
  · rw [shellChar, if_neg hc, run_cons, step_single rfl hc]
    rfl

/-- The text between the quotes. The word has begun there, even if nothing of it was read yet. -/
theorem run_flatMap_shellChar (r : ShellReader) (s t : List Char) :
    ((r.add s).turn .single).run (t.flatMap shellChar) = some ((r.add (s ++ t)).turn .single) := by
  induction t generalizing s with
  | nil => rw [List.flatMap_nil, run_nil, List.append_nil]
  | cons c t ih =>
    calc ((r.add s).turn .single).run ((c :: t).flatMap shellChar)
        = (((r.add s).turn .single).run (shellChar c)).bind (·.run (t.flatMap shellChar)) := by
          rw [List.flatMap_cons, run_append]
      _ = ((r.add (s ++ [c])).turn .single).run (t.flatMap shellChar) := by
          rw [run_shellChar, add_add, Option.bind_some]
      _ = some ((r.add (s ++ c :: t)).turn .single) := by
          rw [ih, List.append_assoc, List.singleton_append]

/-- **A quoted text**, read outside of quotes, is part of the word as it stands. -/
theorem run_shellWord (hr : r.quoting = .bare) (s : List Char) :
    r.run (shellWord s) = some (r.add s) := by
  have hopen : r.step '\'' = some ((r.add []).turn .single) := by
    simp [step, hr]
  have hclose : ((r.add s).turn .single).step '\'' = some ((r.add s).turn .bare) := by
    simp [step]
  rw [shellWord, run_cons, hopen, Option.bind_some, run_append, run_flatMap_shellChar,
    Option.bind_some, List.nil_append, run_cons, hclose, Option.bind_some, run_nil,
    turn_bare (by rw [quoting_add, hr])]

/-! ### Several words -/

/-- A word that began after these words is the last one of the text. -/
theorem finish?_add (before : List (List Char)) (w : List Char) :
    (add { words := before } w).finish? = some (before ++ [w]) :=
  rfl

/-- The induction goes over the words that are still to be read. -/
theorem finish?_run_joinWith (hb : isShellBlank b = true) (before ws : List (List Char)) :
    (run { words := before } (joinWith b (ws.map shellWord))).bind finish?
      = some (before ++ ws) := by
  induction ws generalizing before with
  | nil => rfl
  | cons w ws ih =>
    cases ws with
    | nil => rw [List.map_singleton, joinWith, run_shellWord rfl, Option.bind_some, finish?_add]
    | cons w' ws =>
      have hjoin : joinWith b ((w :: w' :: ws).map shellWord)
          = shellWord w ++ b :: joinWith b ((w' :: ws).map shellWord) := rfl
      have hblank : (add { words := before } w).step b = some { words := before ++ [w] } :=
        step_blank rfl hb
      rw [hjoin, run_append, run_shellWord rfl, Option.bind_some, run_cons, hblank,
        Option.bind_some, ih, List.append_assoc, List.singleton_append]

end ShellReader

/-- **Texts that are written as words**, with a blank between each two of them, are read as these
texts. -/
theorem shellWords?_joinWith {b : Char} (hb : isShellBlank b = true) (ws : List (List Char)) :
    shellWords? (joinWith b (ws.map shellWord)) = some ws :=
  ShellReader.finish?_run_joinWith hb [] ws

/-- Characters that are dropped from a word are dropped from the text in it, unless they are among
those that the quoting is made of. -/
theorem filter_shellWord {p : Char → Bool} (hquote : p '\'' = true) (hescape : p '\\' = true)
    (s : List Char) : (shellWord s).filter p = shellWord (s.filter p) := by
  have hchar : ∀ c, (shellChar c).filter p = if p c = true then shellChar c else [] := by
    intro c
    by_cases hc : c = '\''
    · subst hc
      simp [shellChar, hquote, hescape]
    · rw [shellChar, if_neg hc, List.filter_cons, List.filter_nil]
  have hbody : (s.flatMap shellChar).filter p = (s.filter p).flatMap shellChar := by
    induction s with
    | nil => rfl
    | cons c s ih =>
      rw [List.flatMap_cons, List.filter_append, ih, hchar, List.filter_cons]
      split
      · rfl
      · rfl
  rw [shellWord, List.filter_cons_of_pos hquote, List.filter_append, hbody,
    List.filter_cons_of_pos hquote, List.filter_nil, shellWord]

end CommitStamp.Text

namespace CommitStamp.StandIn.Script

open Text

theorem toList_word (s : String) : (word s).toList = shellWord s.toList :=
  String.toList_ofList

/-- **A text in a script** is read as one word, which is that text, whatever it holds. Two of them
with a blank in between are read as two words. -/
theorem word_reads_back (s : String) :
    shellWords? (word s).toList = some [s.toList] ∧
      ∀ b, isShellBlank b = true → ∀ t,
        shellWords? (word s ++ String.singleton b ++ word t).toList
          = some [s.toList, t.toList] := by
  constructor
  · rw [toList_word]
    exact shellWords?_joinWith (b := ' ') rfl [s.toList]
  · intro b hb t
    have hpair : (word s ++ String.singleton b ++ word t).toList
        = joinWith b ([s.toList, t.toList].map shellWord) := by
      simp [toList_word, joinWith]
    rw [hpair]
    exact shellWords?_joinWith hb [s.toList, t.toList]

/-- Quotes at both ends of a text, backslashes before quotes, and what would be a command. -/
theorem word_reads_back_command :
    isShellBlank '\t' = true ∧
      shellWords? "'it'\\''s'".toList = some ["it's".toList] ∧
      shellWords? "'it'\\''s'\t''\\''; rm $0 #\n\\'\\'''".toList
        = some ["it's".toList, "'; rm $0 #\n\\'".toList] := by
  have hb : isShellBlank '\t' = true := by decide
  obtain ⟨hword, hwords⟩ := word_reads_back "it's"
  exact ⟨hb, hword, hwords '\t' hb "'; rm $0 #\n\\'"⟩

/-- The command that prints a text has that text as its last word, less the characters that a shell
drops when it reads the script: it prints what is `written`. -/
theorem exists_shellWords?_printf (s : String) :
    ∃ printed, shellWords? (("printf '%s' " ++ word s).toList.filter (· ≠ '\x00'))
        = some ["printf".toList, "%s".toList, printed] ∧
      written s = Encoding.utf8.encode printed := by
  let printed := s.toList.filter (· ≠ '\x00')
  refine ⟨printed, ?_, rfl⟩
  have hline : ("printf '%s' " ++ word s).toList.filter (· ≠ '\x00')
      = "printf '%s' ".toList ++ shellWord printed := by
    rw [String.toList_append, List.filter_append, toList_word, filter_shellWord rfl rfl]
    rfl
  -- the words before it are the same for every text
  have hbefore : ShellReader.run {} "printf '%s' ".toList
      = some { words := ["printf".toList, "%s".toList] } := by
    decide
  rw [hline, shellWords?, ShellReader.run_append, hbefore, Option.bind_some,
    ShellReader.run_shellWord rfl, Option.bind_some, ShellReader.finish?_add]
  rfl

end CommitStamp.StandIn.Script
