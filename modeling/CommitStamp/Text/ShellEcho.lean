import CommitStamp.Encoding.Utf8
/-!
# What a shell echoes

A shell's `echo` writes its argument and a newline. Backslashes in the argument stand for controls
and for bytes in octal, so an argument need not be a text, and is read byte by byte.
-/

namespace CommitStamp.Text

/-- The byte that a backslash with this letter after it stands for. -/
def echoLetter? (b : UInt8) : Option UInt8 :=
  match Char.ofNat b.toNat with
  | '\\' => some 0x5c
  | 'a' => some 0x07
  | 'b' => some 0x08
  | 'e' => some 0x1b
  | 'f' => some 0x0c
  | 'n' => some 0x0a
  | 'r' => some 0x0d
  | 't' => some 0x09
  | 'v' => some 0x0b
  | _ => none

/-- The byte is an octal digit. -/
def isOctalByte (b : UInt8) : Bool :=
  0x30 ≤ b && b ≤ 0x37

/-- The bytes after a zero before another octal digit, which does not count as one. -/
def afterOctalMark (s : Bytes) : Bytes :=
  match s with
  | 0x30 :: b :: r => if isOctalByte b then b :: r else s
  | _ => s

/-- The byte of an escape, read after its backslash, and what follows the escape: a letter or up to
three octal digits. None where a backslash starts no escape. -/
def echoEscape? (s : Bytes) : Option (UInt8 × Bytes) :=
  match s.head?.bind echoLetter? with
  | some b => some (b, s.tail)
  | none =>
    let s := afterOctalMark s
    let digits := (s.take 3).takeWhile isOctalByte
    if digits = [] then none
    else some (.ofNat (digits.foldl (fun n b => 8 * n + (b.toNat - 0x30)) 0), s.drop digits.length)

theorem length_afterOctalMark_le (s : Bytes) : (afterOctalMark s).length ≤ s.length := by
  unfold afterOctalMark
  split
  · split <;> simp
  · simp

theorem length_le_of_echoEscape? {s r : Bytes} {b : UInt8} (h : echoEscape? s = some (b, r)) :
    r.length ≤ s.length := by
  have := length_afterOctalMark_le s
  unfold echoEscape? at h
  grind

/-- The bytes of an echoed argument, and whether it was echoed to its end: `\c` breaks it off. A
backslash that starts no escape stands for itself. -/
def echoBytes : Bytes → Bytes × Bool
  | [] => ([], true)
  | b :: s =>
    if b ≠ 0x5c then (echoBytes s).map (b :: ·) id
    else if s.head? = some 0x63 then ([], false)
    else
      match _h : echoEscape? s with
      | some (e, r) => (echoBytes r).map (e :: ·) id
      | none => (echoBytes s).map (b :: ·) id
termination_by s => s.length
decreasing_by
  · simp
  · have := length_le_of_echoEscape? _h
    simp
    omega
  · simp

/-- All that `echo` writes for an argument. An argument that is an option of its own asks for no
newline, and there is nothing else to write. -/
def echo (s : Bytes) : Bytes :=
  if s = [0x2d, 0x6e] then []
  else
    match echoBytes s with
    | (bytes, true) => bytes ++ [0x0a]
    | (bytes, false) => bytes

end CommitStamp.Text
