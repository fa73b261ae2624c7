import CommitStamp.Encoding.Utf8
/-!
# UTF-16 and UTF-32

Characters as units of two or four bytes in either byte order. A reading is a list of items as for
UTF-8: an unpaired surrogate, a number that is no character and a remainder that fills no unit are
one defect each.
-/

namespace CommitStamp

/-- Which byte of a unit comes first: the least or the most significant. -/
inductive ByteOrder where
  | little
  | big
deriving DecidableEq

namespace ByteOrder

/-- Bytes that are given from the least significant one, in this order; and back. -/
def arrange : ByteOrder → Bytes → Bytes
  | little, s => s
  | big, s => s.reverse

end ByteOrder

namespace Utf16

/-- The units of one character: one, or a pair of surrogates. -/
def units (c : Char) : List Nat :=
  let n := c.toNat
  if n < 0x10000 then [n]
  else [0xd800 + (n - 0x10000) / 1024, 0xdc00 + (n - 0x10000) % 1024]

/-- The two bytes of a unit. -/
def unitBytes (order : ByteOrder) (u : Nat) : Bytes :=
  order.arrange [.ofNat (u % 256), .ofNat (u / 256)]

/-- The bytes of one character. -/
def encodeChar (order : ByteOrder) (c : Char) : Bytes :=
  (units c).flatMap (unitBytes order)

/-- The unit that two bytes make. -/
def unit (order : ByteOrder) (a b : UInt8) : Nat :=
  match order with
  | .little => a.toNat + 256 * b.toNat
  | .big => 256 * a.toNat + b.toNat

/-- The units of a sequence of bytes; a single byte at the end makes no unit and is left out. -/
def unitsOf (order : ByteOrder) : Bytes → List Nat
  | a :: b :: s => unit order a b :: unitsOf order s
  | _ => []

/-- The first half of a pair. -/
def isHigh (u : Nat) : Bool := 0xd800 ≤ u && u < 0xdc00

/-- The second half of a pair. -/
def isLow (u : Nat) : Bool := 0xdc00 ≤ u && u < 0xe000

/-- The items of a sequence of units. -/
def itemsOfUnits : List Nat → List (Option Char)
  | [] => []
  | [u] => [if isHigh u || isLow u then none else some (Char.ofNat u)]
  | u :: v :: s =>
    if isHigh u && isLow v then
      some (Char.ofNat (0x10000 + (u - 0xd800) * 1024 + (v - 0xdc00))) :: itemsOfUnits s
    else
      (if isHigh u || isLow u then none else some (Char.ofNat u)) :: itemsOfUnits (v :: s)

/-- The items of a sequence of bytes. -/
def items (order : ByteOrder) (s : Bytes) : List (Option Char) :=
  itemsOfUnits (unitsOf order s) ++ (if s.length % 2 = 0 then [] else [none])

end Utf16

namespace Utf32

/-- The four bytes of one character. -/
def encodeChar (order : ByteOrder) (c : Char) : Bytes :=
  let n := c.toNat
  order.arrange
    [.ofNat (n % 256), .ofNat (n / 256 % 256), .ofNat (n / 65536 % 256), .ofNat (n / 16777216)]

/-- The number that four bytes make. -/
def unit (order : ByteOrder) (a b c d : UInt8) : Nat :=
  match order with
  | .little => a.toNat + 256 * b.toNat + 65536 * c.toNat + 16777216 * d.toNat
  | .big => 16777216 * a.toNat + 65536 * b.toNat + 256 * c.toNat + d.toNat

/-- The character with this number. -/
def char? (n : Nat) : Option Char :=
  if n.isValidChar then some (Char.ofNat n) else none

/-- The items of a sequence of bytes. -/
def items (order : ByteOrder) : Bytes → List (Option Char)
  | [] => []
  | a :: b :: c :: d :: s => char? (unit order a b c d) :: items order s
  | _ => [none]

end Utf32

namespace Latin1

/-- One byte for a character of the first 256, a question mark for any other. -/
def encodeChar (c : Char) : Bytes :=
  [if c.toNat < 256 then .ofNat c.toNat else '?'.toUInt8]

/-- Every byte is a character. -/
def items (s : Bytes) : List (Option Char) :=
  s.map fun b => some (Char.ofNat b.toNat)

end Latin1

end CommitStamp
