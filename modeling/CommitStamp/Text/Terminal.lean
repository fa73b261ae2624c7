import CommitStamp.Encoding.Utf8
/-!
# Text on a terminal

A terminal takes some characters as orders and does not show them: controls, and sequences that
start with the escape character. `shown` is what is left of a text without them. A control that
moves the cursor like a blank does is kept, also inside a sequence.

`shown_eq_self` says that a text without controls stays as it is.
-/

namespace CommitStamp.Text

/-- Where in a sequence a text stands. -/
inductive Passage where
  /-- Outside of sequences. -/
  | plain
  /-- Right after the escape character. -/
  | escape
  /-- After the escape character and characters that come before a last one. -/
  | escapeMiddle
  /-- In a control sequence, up to its last character. -/
  | control
  /-- At the start of a string for a device. -/
  | device
  /-- In the parameters of a string for a device. -/
  | deviceParameters
  /-- After the parameters of a string for a device. -/
  | deviceMiddle
  /-- In a string that lasts up to its terminator. -/
  | string
  /-- In a command to the terminal, up to the bell. -/
  | command
deriving DecidableEq

namespace Passage

/-- A character from `first` to `last`. -/
def isBetween (first last c : Char) : Bool :=
  first ≤ c && c ≤ last

/-- Where a text stands after a character. A new escape character ends every sequence, and two
controls cancel it. -/
def next (p : Passage) (c : Char) : Passage :=
  if c = '\x1b' then escape
  else if c = '\x18' ∨ c = '\x1a' then plain
  else
    match p with
    | plain => plain
    | escape =>
      if isBetween ' ' '/' c then escapeMiddle
      else if c = '[' then control
      else if c = ']' then command
      else if c = 'P' then device
      else if c = 'X' ∨ c = '^' ∨ c = '_' then string
      else if isBetween '0' '~' c then plain
      else escape
    | escapeMiddle => if isBetween '0' '~' c then plain else escapeMiddle
    | control => if isBetween '@' '~' c then plain else control
    | device =>
      if isBetween ' ' '/' c then deviceMiddle
      else if isBetween '0' '?' c then deviceParameters
      else if isBetween '@' '~' c then string
      else device
    | deviceParameters =>
      if isBetween ' ' '/' c then deviceMiddle
      else if isBetween '<' '~' c then string
      else deviceParameters
    | deviceMiddle => if isBetween '0' '~' c then string else deviceMiddle
    -- The terminator is a byte, which may be part of a longer character.
    | string => if 0x9c ∈ Utf8.encodeChar c then plain else string
    | command => if c = '\x07' then plain else command

/-- A control that stands for space between characters or lines. -/
def isSpacing (c : Char) : Bool :=
  c == '\t' || c == '\n' || c == '\x0c' || c == '\r'

/-- A character is shown. -/
def shows (p : Passage) (c : Char) : Bool :=
  match p with
  | plain => isSpacing c || (' ' ≤ c && c != '\x7f')
  | escape | escapeMiddle | control => isSpacing c
  | device | deviceParameters | deviceMiddle | string | command => false

end Passage

/-- What is shown of the rest of a text. As long as characters are shown, the next ones count as
outside of the sequence; the first that is not shown belongs to the sequence again. -/
def shownFrom (p : Passage) (showing : Bool) : List Char → List Char
  | [] => []
  | c :: s =>
    if (if showing then .plain else p).shows c then
      c :: shownFrom (if c.toNat < 0x80 then p else .plain) true s
    else shownFrom (p.next c) false s

/-- What a terminal shows of a text. -/
def shown (s : List Char) : List Char :=
  shownFrom .plain false s

theorem shownFrom_plain {s : List Char} {showing : Bool}
    (h : ∀ c ∈ s, Passage.plain.shows c = true) : shownFrom .plain showing s = s := by
  induction s generalizing showing with
  | nil => rfl
  | cons c s ih =>
    rw [List.forall_mem_cons] at h
    simp [shownFrom, h.1, ih h.2]

theorem shown_eq_self {s : List Char} (h : ∀ c ∈ s, Passage.plain.shows c = true) :
    shown s = s :=
  shownFrom_plain h

end CommitStamp.Text
