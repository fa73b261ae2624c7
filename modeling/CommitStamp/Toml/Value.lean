/-!
# Values and tables of TOML

A table is filled step by step, and what may still be added to it depends on how it came to be: that
is its `Origin`. `Table.assign` adds a key, `Table.openTable` and `Table.openElement` do what the
two kinds of header do. Each of them refuses what would define something twice.
-/

namespace CommitStamp.Toml

/-- A key of a table. -/
abbrev Key := List Char

/-- How a table came to be. -/
inductive Origin where
  /-- Named by a header. -/
  | header
  /-- On the way to a table that a header names. -/
  | implied
  /-- On the way to a key that is written with dots. -/
  | dotted
  /-- Written in braces. -/
  | inline
deriving DecidableEq

mutual

/-- A value. Of floats and dates, which nothing here computes with, the text is kept. -/
inductive Value where
  | string (text : List Char)
  | integer (n : Int)
  | float (text : List Char)
  /-- A number that may stand in a document and yet has no value: it is too large, or it has digits
  that its base does not have, or none. -/
  | unreadable (text : List Char)
  | boolean (b : Bool)
  | date (text : List Char)
  | array (items : List Value)
  | table (t : Table)
  /-- Tables that headers in double brackets add one by one: the earlier ones and the last. -/
  | tables (earlier : List Table) (last : Table)

/-- A table: its entries, each key once, in the order of their first mention. -/
inductive Table where
  | of (origin : Origin) (entries : List (Key × Value))

end

/-! ## Reading whatever stands there -/

mutual

/-- The value, and all that is in it, can be read. -/
def Value.isReadable : Value → Bool
  | .string _ | .integer _ | .float _ | .boolean _ | .date _ => true
  | .unreadable _ => false
  | .array items => areReadable items
  | .table t => t.isReadable
  | .tables earlier last => tablesAreReadable earlier && last.isReadable

/-- All values of the table can be read. -/
def Table.isReadable : Table → Bool
  | .of _ entries => entriesAreReadable entries

/-- All of these values can be read. -/
def areReadable : List Value → Bool
  | [] => true
  | v :: vs => v.isReadable && areReadable vs

/-- All values of these tables can be read. -/
def tablesAreReadable : List Table → Bool
  | [] => true
  | t :: ts => t.isReadable && tablesAreReadable ts

/-- All values of these entries can be read. -/
def entriesAreReadable : List (Key × Value) → Bool
  | [] => true
  | e :: es => entryIsReadable e && entriesAreReadable es

/-- The value of an entry can be read. -/
def entryIsReadable : Key × Value → Bool
  | (_, v) => v.isReadable

end

/-! ## Filling tables -/

namespace Table

/-- How the table came to be. -/
def origin : Table → Origin
  | of origin _ => origin

/-- The keys and values of the table. -/
def entries : Table → List (Key × Value)
  | of _ entries => entries

/-- The value of a key. -/
def get? (t : Table) (k : Key) : Option Value :=
  t.entries.lookup k

/-- The entries with the value of `k` replaced, or added at the end. -/
def putEntry (k : Key) (v : Value) : List (Key × Value) → List (Key × Value)
  | [] => [(k, v)]
  | (l, w) :: rest => if l = k then (l, v) :: rest else (l, w) :: putEntry k v rest

/-- The table in which `k` has the value `v`. -/
def put (t : Table) (k : Key) (v : Value) : Table :=
  of t.origin (putEntry k v t.entries)

/-- The entries of the table in one that came to be in another way. -/
def withOrigin (o : Origin) (t : Table) : Table :=
  of o t.entries

/-- The table with `change` made in the table that `path` leads to. Where nothing stands on the way
a table of origin `fresh` is made; a table that stands there is entered if `enter?` gives the origin
that it has from then on, and of an array of tables the last one is. -/
def within (fresh : Origin) (enter? : Origin → Option Origin) (change : Table → Option Table) :
    List Key → Table → Option Table
  | [], t => change t
  | k :: path, t =>
    match t.get? k with
    | none => (within fresh enter? change path (of fresh [])).map fun u => t.put k (.table u)
    | some (.table u) =>
      match enter? u.origin with
      | some o =>
        (within fresh enter? change path (u.withOrigin o)).map fun u => t.put k (.table u)
      | none => none
    | some (.tables earlier last) =>
      (within fresh enter? change path last).map fun u => t.put k (.tables earlier u)
    | some _ => none

/-- How dots enter a table: one that was only implied is theirs from then on, so that no header can
name it any more, and one that a header or braces wrote is closed to them. -/
def enterByDots? : Origin → Option Origin
  | .dotted | .implied => some .dotted
  | .header | .inline => none

/-- How a header enters a table: it changes nothing, and braces are closed to it. -/
def enterByHeader? (o : Origin) : Option Origin :=
  if o = .inline then none else some o

/-- The table with a value for a key that may be dotted: `path` are the parts before the last dot.
A key is given once, and the last step of a path has to end in a table that dots made or took over,
which the elements of an array of tables never are. -/
def assign (path : List Key) (k : Key) (v : Value) : Table → Option Table :=
  within .dotted enterByDots?
    (fun t =>
      if (path = [] ∨ t.origin = .dotted) ∧ (t.get? k).isNone then some (t.put k v) else none)
    path

/-- The table with a change made where a header's name has its last part. -/
def atHeader (change : Table → Option Table) : List Key → Table → Option Table :=
  within .implied enterByHeader? change

/-- The table after a header `[path.k]`. It makes a new table, or is the header of one that was only
implied so far. -/
def openTable (path : List Key) (k : Key) : Table → Option Table :=
  atHeader (fun t =>
    match t.get? k with
    | none => some (t.put k (.table (of .header [])))
    | some (.table u) =>
      if u.origin = .implied then some (t.put k (.table (of .header u.entries))) else none
    | some _ => none) path

/-- The table after a header `[[path.k]]`, which adds a table to an array of them. -/
def openElement (path : List Key) (k : Key) : Table → Option Table :=
  atHeader (fun t =>
    match t.get? k with
    | none => some (t.put k (.tables [] (of .header [])))
    | some (.tables earlier last) => some (t.put k (.tables (earlier ++ [last]) (of .header [])))
    | some _ => none) path

end Table

end CommitStamp.Toml
