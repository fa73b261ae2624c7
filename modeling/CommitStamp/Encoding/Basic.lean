import CommitStamp.Encoding.Wide
import CommitStamp.Text.Prefix
/-!
# Encodings of text files

How a file holds its text. Files say so by a byte-order mark at their start; without one they are
UTF-8 if that is how they can be read, and otherwise one byte per character. Decoding replaces each
defect by U+FFFD, and encoding writes the mark first.
-/

namespace CommitStamp

open Text

/-- The encodings that are told apart. -/
inductive Encoding where
  | utf8
  /-- UTF-8 after a byte-order mark. -/
  | markedUtf8
  | utf16 (order : ByteOrder)
  | utf32 (order : ByteOrder)
  /-- One byte per character, the first 256 characters only. -/
  | latin1
deriving DecidableEq

namespace Encoding

/-- The byte-order mark that announces the encoding; empty for the two that have none. -/
def mark : Encoding → Bytes
  | utf8 | latin1 => []
  | markedUtf8 => [0xef, 0xbb, 0xbf]
  | utf16 .little => [0xff, 0xfe]
  | utf16 .big => [0xfe, 0xff]
  | utf32 .little => [0xff, 0xfe, 0x00, 0x00]
  | utf32 .big => [0x00, 0x00, 0xfe, 0xff]

/-- The encodings with a mark, in the order in which the marks are looked for: the mark of UTF-32 in
little order starts with the one of UTF-16, so it comes first. -/
def marked : List Encoding :=
  [markedUtf8, utf32 .little, utf32 .big, utf16 .little, utf16 .big]

/-- The bytes of one character. -/
def encodeChar : Encoding → Char → Bytes
  | utf8 | markedUtf8 => Utf8.encodeChar
  | utf16 order => Utf16.encodeChar order
  | utf32 order => Utf32.encodeChar order
  | latin1 => Latin1.encodeChar

/-- The characters and defects of bytes after the mark. -/
def items : Encoding → Bytes → List (Option Char)
  | utf8 | markedUtf8 => Utf8.items
  | utf16 order => Utf16.items order
  | utf32 order => Utf32.items order
  | latin1 => Latin1.items

/-- The bytes after the mark, or all of them if they do not start with it. -/
def body (e : Encoding) (b : Bytes) : Bytes :=
  (after? e.mark b).getD b

/-- The bytes hold no defect. -/
def WellFormed (e : Encoding) (body : Bytes) : Prop :=
  ∀ i ∈ e.items body, i.isSome = true

instance (e : Encoding) (body : Bytes) : Decidable (e.WellFormed body) :=
  inferInstanceAs (Decidable (∀ i ∈ e.items body, i.isSome = true))

/-- What stands for a defect in decoded text. -/
def replacement : Char := '\ufffd'

/-- The text of a file without its mark. -/
def decode (e : Encoding) (b : Bytes) : List Char :=
  (e.items (e.body b)).map fun i => i.getD replacement

/-- The file that holds a text, mark included. -/
def encode (e : Encoding) (text : List Char) : Bytes :=
  e.mark ++ text.flatMap e.encodeChar

/-- The encoding of a file. -/
def detect (b : Bytes) : Encoding :=
  match marked.find? fun e => (after? e.mark b).isSome with
  | some e => e
  | none => if utf8.WellFormed b then utf8 else latin1

end Encoding

end CommitStamp
