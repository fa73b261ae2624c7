import CommitStamp.Toml.Scalar
import CommitStamp.Toml.Text
/-!
# Reading a TOML document

A document is a sequence of statements: `key = value` or a header. `Document.read?` gives the root
table, or nothing if the text is no document; no cause is kept, because nobody is told more than
that. Values nest in arrays and inline tables, at most `nestingLimit` deep. The readers of sequences
stop at a given number of steps; every step takes a character, so the length of the whole document
is enough for all of them.
-/

namespace CommitStamp.Toml

open Text

/-! ## Blanks and comments -/

/-- The text after blanks, line ends and comments; none if a comment holds a control character. The
flag says that the text starts inside a comment. -/
def skip? : Bool → List Char → Option (List Char)
  | _, [] => some []
  | true, c :: s =>
    if c = '\n' then skip? false s
    else if isControl c && c != '\r' then none
    else skip? true s
  | false, c :: s =>
    if c = '#' then skip? true s
    else if isBlank c || c == '\n' then skip? false s
    else some (c :: s)

/-- The text after the end of a statement: after blanks, a comment, and a line end. -/
def afterStatement? (s : List Char) : Option (List Char) :=
  match s.dropWhile isBlank with
  | [] => some []
  | '\n' :: s => some s
  | '#' :: s => skip? true s
  | _ => none

/-! ## Keys -/

/-- A character of a key without quotes. -/
def isKeyChar (c : Char) : Bool :=
  isDigit c || ('a' ≤ c && c ≤ 'z') || ('A' ≤ c && c ≤ 'Z') || c == '_' || c == '-'

/-- A single part of a key, and the text after it. -/
def keyPart? (s : List Char) : Option (Key × List Char) :=
  match s with
  | '"' :: s => basic? s
  | '\'' :: s => literal? s
  | s =>
    let part := s.takeWhile isKeyChar
    if part = [] then none else some (part, s.drop part.length)

/-- A key of at most `n` parts with dots between them: the parts before the last dot, the last part,
and the text after the key and blanks. -/
def keyParts? : Nat → List Char → Option (List Key × Key × List Char)
  | 0, _ => none
  | n + 1, s => do
    let (part, r) ← keyPart? s
    match r.dropWhile isBlank with
    | '.' :: r =>
      let (path, last, r) ← keyParts? n (r.dropWhile isBlank)
      return (part :: path, last, r)
    | r => return ([], part, r)

/-- How many parts a key may have. -/
def keyLimit : Nat := 80

/-- A key, which may be dotted: the parts before its last dot, the last part, and the text after the
key and blanks. -/
def key? (s : List Char) : Option (List Key × Key × List Char) :=
  keyParts? keyLimit s

/-! ## Values -/

/-- How deep arrays and inline tables may nest. -/
def nestingLimit : Nat := 80

/-- Items, fewer than `n`, with commas between them up to the closing character, and the text after
it. Line ends and comments may stand everywhere between them, and a comma may follow the last. -/
def items? {α : Type} (item? : List Char → Option (α × List Char)) (close : Char) :
    Nat → List Char → Option (List α × List Char)
  | 0, _ => none
  | n + 1, s => do
    match ← skip? false s with
    | [] => none
    | c :: r =>
      if c = close then return ([], r)
      else
        let (x, r) ← item? (c :: r)
        match ← skip? false r with
        | ',' :: r =>
          let (xs, r) ← items? item? close n r
          return (x :: xs, r)
        | d :: r => if d = close then return ([x], r) else none
        | [] => none

/-- A key, an equals sign and a value: the parts of the key, the value, and the text after it. What
`gap?` skips may stand on both sides of the sign. -/
def pair? (gap? : List Char → Option (List Char))
    (value? : List Char → Option (Value × List Char)) (s : List Char) :
    Option ((List Key × Key × Value) × List Char) := do
  let (path, k, r) ← key? s
  let r ← after? ['='] (← gap? r)
  let (v, r) ← value? (← gap? r)
  return ((path, k, v), r)

/-- The inline table with these pairs. -/
def inlineTable? (pairs : List (List Key × Key × Value)) : Option Table :=
  pairs.foldlM (fun t (path, k, v) => t.assign path k v) (.of .inline [])

/-- A value in which arrays and inline tables nest at most `depth` deep, and the text after it. An
array or an inline table in it has fewer than `n` items. -/
def value? (n : Nat) : Nat → List Char → Option (Value × List Char)
  | _, '"' :: s => (string? ('"' :: s)).map fun (t, r) => (.string t, r)
  | _, '\'' :: s => (string? ('\'' :: s)).map fun (t, r) => (.string t, r)
  | 0, '[' :: _ => none
  | 0, '{' :: _ => none
  | depth + 1, '[' :: s => (items? (value? n depth) ']' n s).map fun (vs, r) => (.array vs, r)
  | depth + 1, '{' :: s => do
    let (pairs, r) ← items? (pair? (skip? false) (value? n depth)) '}' n s
    return (.table (← inlineTable? pairs), r)
  | _, s => scalar? s

/-! ## Statements -/

/-- What is read so far: the root table, and the name of the table that the last header opened. -/
structure Document where
  root : Table
  current : List Key

namespace Document

/-- Nothing is read. -/
def empty : Document :=
  ⟨.of .header [], []⟩

/-- The document after `key = value`. -/
def assign? (d : Document) (path : List Key) (k : Key) (v : Value) : Option Document :=
  (d.root.within .header some (Table.assign path k v) d.current).map
    fun root => { d with root }

/-- The document after a header in single brackets. -/
def openTable? (d : Document) (path : List Key) (k : Key) : Option Document :=
  (d.root.openTable path k).map fun root => ⟨root, path ++ [k]⟩

/-- The document after a header in double brackets. -/
def openElement? (d : Document) (path : List Key) (k : Key) : Option Document :=
  (d.root.openElement path k).map fun root => ⟨root, path ++ [k]⟩

/-- The document after the statement that `s` starts with, and the text after that. An array or an
inline table in it has fewer than `n` items. -/
def statement? (d : Document) (n : Nat) (s : List Char) : Option (Document × List Char) :=
  match s with
  | '[' :: '[' :: s => do
    let (path, k, r) ← key? (s.dropWhile isBlank)
    return (← d.openElement? path k, ← after? [']', ']'] r)
  | '[' :: s => do
    let (path, k, r) ← key? (s.dropWhile isBlank)
    return (← d.openTable? path k, ← after? [']'] r)
  | s => do
    let ((path, k, v), r) ← pair? (fun s => some (s.dropWhile isBlank)) (value? n nestingLimit) s
    return (← d.assign? path k v, r)

/-- The document after all statements of a text, of which there are fewer than the second number. -/
def statements? (n : Nat) : Nat → Document → List Char → Option Document
  | 0, _, _ => none
  | m + 1, d, s => do
    match ← skip? false s with
    | [] => return d
    | c :: r =>
      let (d, r) ← d.statement? n (c :: r)
      statements? n m d (← afterStatement? r)

/-- A carriage return stands somewhere else than before a newline. -/
def hasLoneReturn : List Char → Bool
  | [] => false
  | '\r' :: '\n' :: s => hasLoneReturn s
  | c :: s => c == '\r' || hasLoneReturn s

/-- The root table of a document. A byte order mark at its start is skipped. -/
def read? (s : List Char) : Option Table :=
  let s := if s.head? = some '\ufeff' then s.tail else s
  let n := s.length + 1
  if hasLoneReturn s then none else (statements? n n empty s).map (·.root)

end Document

end CommitStamp.Toml
