import CommitStamp.Calendar.Date
import CommitStamp.Text.Numeral
import CommitStamp.Text.Prefix
import CommitStamp.Toml.Value
/-!
# Numbers, dates and truth values in TOML

A scalar is a run of characters up to a blank or a character with a meaning of its own, except that
one space may stand between a date and a time. `scalar?` cuts the run and `ofScalar?` reads it.

A number is looked at in two steps. Its form decides whether it may stand in a document; whether
there is such a number is asked later, by whoever reads the value, so a number of good form without
a value is `Value.unreadable` here.
-/

namespace CommitStamp.Toml

open Text

/-! ## Signs and underscores -/

/-- The sign of a number, if it has one, and what follows it. -/
def unsigned : List Char → Option Char × List Char
  | '-' :: s => (some '-', s)
  | '+' :: s => (some '+', s)
  | s => (none, s)

/-- A number with the sign that was written before it. -/
def signed (sign? : Option Char) (n : Nat) : Int :=
  if sign? = some '-' then -n else n

/-- Every underscore stands between two digits. Right before the text stands a digit if `after` says
so. -/
def underscoresFit (isDigit : Char → Bool) : Bool → List Char → Bool
  | _, [] => true
  | after, c :: s =>
    if c = '_' then after && s.head?.any isDigit && underscoresFit isDigit false s
    else underscoresFit isDigit (isDigit c) s

/-- A text without its underscores. -/
def withoutUnderscores (s : List Char) : List Char :=
  s.filter (· ≠ '_')

/-! ## Integers -/

/-- A digit of base two. -/
def isBinaryDigit (c : Char) : Bool :=
  c == '0' || c == '1'

/-- The integers that can be read: those of a signed or an unsigned word of 128 bits. -/
def isWord (n : Int) : Bool :=
  -0x80000000000000000000000000000000 ≤ n && n < 0x100000000000000000000000000000000

/-- The value of an integer with these digits. -/
def integerValue (base : Nat) (sign? : Option Char) (digits : List Char) : Value :=
  let n := signed sign? (ofDigits base digits)
  if digits ≠ [] ∧ isWord n then .integer n else .unreadable digits

/-- An integer in a base that is named before it: digits of that base, perhaps none. -/
def basedInteger? (base : Nat) (isDigit : Char → Bool) (s : List Char) : Option Value :=
  let digits := withoutUnderscores s
  if digits.all isDigit && underscoresFit isDigit false s then some (integerValue base none digits)
  else none

/-- The letter before an exponent. -/
def isExponentMark (c : Char) : Bool :=
  c == 'e' || c == 'E'

/-- An integer in decimal. It starts with digits, the first of which is no zero unless it is the
only one, and goes on with an underscore or not at all. After that letters may come as well, where
they count as digits around underscores; such an integer has no value. -/
def decimalInteger? (s : List Char) : Option Value :=
  let (sign?, body) := unsigned s
  let rest := body.dropWhile isDigit
  if body = [] ∨ (rest ≠ [] ∧ rest.head? ≠ some '_') then none
  else if rest.any (fun c => c == '.' || isExponentMark c) then none
  else if body.head? = some '0' ∧ body ≠ ['0'] then none
  else if !underscoresFit isHexDigit false body then none
  else
    let digits := withoutUnderscores body
    some (if digits.all isDigit then integerValue 10 sign? digits else .unreadable digits)

/-- An integer, whose beginning may name its base. -/
def integer? : List Char → Option Value
  | '0' :: 'x' :: s => basedInteger? 16 isHexDigit s
  | '0' :: 'o' :: s => basedInteger? 8 isOctalDigit s
  | '0' :: 'b' :: s => basedInteger? 2 isBinaryDigit s
  | s => decimalInteger? s

/-! ## Floats -/

/-- `digits * 10 ^ exponent` is below every number that rounds to infinity in double precision. With
at most 308 digits before the point it is, with more than 400 it is not. -/
def isFinite (digits : List Char) (exponent : Int) : Bool :=
  let significant := digits.dropWhile (· == '0')
  let places := significant.length + exponent
  if significant = [] ∨ places ≤ 308 then true
  else if places > 400 then false
  else
    let n := ofDecimal significant
    let bound := Nat.pow 2 1024 - Nat.pow 2 970
    let scale := Nat.pow 10 exponent.natAbs
    if exponent < 0 then n < bound * scale else n * scale < bound

/-- The digits of a run of digits with underscores; there is a digit. -/
def run? (s : List Char) : Option (List Char) :=
  let digits := withoutUnderscores s
  if !digits.isEmpty && digits.all isDigit then some digits else none

/-- The digits before the point or the exponent: of several the first is no zero. -/
def wholePart? (s : List Char) : Option (List Char) :=
  (run? s).filter fun digits => digits.length = 1 || s.head? != some '0'

/-- The exponent of a float, after its letter. -/
def exponent? (s : List Char) : Option Int :=
  let (sign?, s) := unsigned s
  (run? s).map fun digits => signed sign? (ofDecimal digits)

/-- A float that is written with digits: a whole part, then a fraction, an exponent or both. -/
def decimalFloat? (s : List Char) : Option Value :=
  let body := (unsigned s).2
  let mantissa := body.takeWhile fun c => !isExponentMark c
  let whole := mantissa.takeWhile (· != '.')
  let fraction? := match mantissa.drop whole.length with
    | [] => some []
    | _ :: f => run? f
  let exponent? := match body.drop mantissa.length with
    | [] => some 0
    | _ :: e => exponent? e
  match wholePart? whole, fraction?, exponent? with
  | some w, some f, some e =>
    if whole.length < body.length && underscoresFit isDigit false body then
      some (if isFinite (w ++ f) (e - f.length) then .float s else .unreadable s)
    else none
  | _, _, _ => none

/-- A float. -/
def float? (s : List Char) : Option Value :=
  let body := (unsigned s).2
  if body = "inf".toList ∨ body = "nan".toList then some (.float s) else decimalFloat? s

/-! ## Dates and times -/

/-- The number that two digits write, and the text after them. -/
def twoDigits? : List Char → Option (Nat × List Char)
  | a :: b :: s => if isDigit a && isDigit b then some (ofDecimal [a, b], s) else none
  | _ => none

/-- The text after a date. -/
def afterDate? (s : List Char) : Option (List Char) := do
  let (century, s) ← twoDigits? s
  let (year, s) ← twoDigits? s
  let (month, s) ← twoDigits? (← after? ['-'] s)
  let (day, s) ← twoDigits? (← after? ['-'] s)
  let _ ← Date.of? (100 * century + year : Nat) month day
  return s

/-- The text after a fraction of a second, if there is one; a point without a digit is none. -/
def afterFraction? : List Char → Option (List Char)
  | '.' :: c :: s => if isDigit c then some (s.dropWhile isDigit) else none
  | ['.'] => none
  | s => some s

/-- The text after a time of the day; its seconds may be left out. -/
def afterTime? (s : List Char) : Option (List Char) := do
  let (hour, s) ← twoDigits? s
  let (minute, s) ← twoDigits? (← after? [':'] s)
  if hour > 23 ∨ minute > 59 then none
  else
    match s with
    | ':' :: s =>
      let (second, s) ← twoDigits? s
      if second > 60 then none else afterFraction? s
    | s => some s

/-- The text is an offset from universal time, of less than a day. -/
def isOffset : List Char → Bool
  | ['Z'] | ['z'] => true
  | c :: s =>
    (c == '+' || c == '-') &&
      match twoDigits? s with
      | some (hours, ':' :: s) =>
        match twoDigits? s with
        | some (minutes, []) => hours ≤ 23 && minutes ≤ 59
        | _ => false
      | _ => false
  | [] => false

/-- What stands between a date and a time. -/
def isDateTimeMark (c : Char) : Bool :=
  c == 'T' || c == 't' || c == ' '

/-- The text is a time, a date, or a date with a time that may have an offset. -/
def isDate (s : List Char) : Bool :=
  match afterDate? s with
  | some [] => true
  | some (c :: s) =>
    isDateTimeMark c &&
      match afterTime? s with
      | some s => s.isEmpty || isOffset s
      | none => false
  | none => afterTime? s == some []

/-! ## Scalars -/

/-- A character of a scalar. -/
def isScalarChar (c : Char) : Bool :=
  !"=,[]\x7b\x7d \t#\r\n".toList.contains c

/-- The value that a scalar writes. -/
def ofScalar? (s : List Char) : Option Value :=
  if s = "true".toList then some (.boolean true)
  else if s = "false".toList then some (.boolean false)
  else if isDate s then some (.date s)
  else (integer? s).or (float? s)

/-- A run of scalar characters that a text starts with. After a date it may go on, over one space,
with a time. -/
def scalarRun (s : List Char) : List Char :=
  let run := s.takeWhile isScalarChar
  match s.drop run.length with
  | ' ' :: c :: r =>
    if isDigit c && afterDate? run == some [] then run ++ ' ' :: (c :: r).takeWhile isScalarChar
    else run
  | _ => run

/-- The scalar that a text starts with, and the text after it. -/
def scalar? (s : List Char) : Option (Value × List Char) :=
  (ofScalar? (scalarRun s)).map (·, s.drop (scalarRun s).length)

end CommitStamp.Toml
