/-!
# UTF-8

Characters as one to four bytes, and the reading of bytes that may be malformed. A reading is a list
of *items*: a character, or `none` for a defect. A defect is a first byte together with as many of
the following bytes as could have continued it, so a broken sequence is one defect and not several.
-/

namespace CommitStamp

/-- Bytes of a file or of a program's output. -/
abbrev Bytes := List UInt8

namespace Utf8

/-- The bytes of one character. -/
def encodeChar (c : Char) : Bytes :=
  let n := c.toNat
  if n < 0x80 then [.ofNat n]
  else if n < 0x800 then [.ofNat (0xc0 + n / 64), .ofNat (0x80 + n % 64)]
  else if n < 0x10000 then
    [.ofNat (0xe0 + n / 4096), .ofNat (0x80 + n / 64 % 64), .ofNat (0x80 + n % 64)]
  else
    [.ofNat (0xf0 + n / 262144), .ofNat (0x80 + n / 4096 % 64), .ofNat (0x80 + n / 64 % 64),
      .ofNat (0x80 + n % 64)]

/-- What the first byte of a sequence announces. -/
structure Lead where
  /-- The bits of the code point that it carries itself. -/
  bits : Nat
  /-- The number of bytes that continue it. -/
  width : Nat
  /-- The bounds of the byte right after it; they rule out overlong forms, surrogates and numbers
  beyond the last code point. -/
  low : Nat
  high : Nat

/-- The announcement of a first byte; none for a byte that starts no sequence. -/
def lead? (b : UInt8) : Option Lead :=
  let n := b.toNat
  if n < 0x80 then some ⟨n, 0, 0x80, 0xbf⟩
  else if n < 0xc2 then none
  else if n < 0xe0 then some ⟨n - 0xc0, 1, 0x80, 0xbf⟩
  else if n < 0xf0 then
    some ⟨n - 0xe0, 2, if n = 0xe0 then 0xa0 else 0x80, if n = 0xed then 0x9f else 0xbf⟩
  else if n < 0xf5 then
    some ⟨n - 0xf0, 3, if n = 0xf0 then 0x90 else 0x80, if n = 0xf4 then 0x8f else 0xbf⟩
  else none

/-- Up to `width` continuing bytes, the first within the given bounds. -/
def continuation (low high : Nat) : Nat → Bytes → Bytes
  | 0, _ => []
  | _, [] => []
  | width + 1, b :: s =>
    if low ≤ b.toNat ∧ b.toNat ≤ high then b :: continuation 0x80 0xbf width s else []

/-- The first item of `b :: s`, and how many bytes of `s` belong to it. -/
def item (b : UInt8) (s : Bytes) : Option Char × Nat :=
  match lead? b with
  | none => (none, 0)
  | some lead =>
    let tail := continuation lead.low lead.high lead.width s
    if tail.length = lead.width then
      (some (Char.ofNat (tail.foldl (fun n b => n * 64 + (b.toNat - 0x80)) lead.bits)), tail.length)
    else (none, tail.length)

/-- The items of a sequence of bytes. -/
def items : Bytes → List (Option Char)
  | [] => []
  | b :: s => (item b s).1 :: items (s.drop (item b s).2)
termination_by s => s.length
decreasing_by simp only [List.length_drop, List.length_cons]; omega

end Utf8

end CommitStamp
