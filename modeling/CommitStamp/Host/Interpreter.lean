import CommitStamp.Encoding.Basic
import CommitStamp.Path
/-!
# Interpreters

An executable text names on its first line the program that reads it: after `#!` comes the path of
the interpreter, and after blanks one argument for it, which may hold blanks itself. Only the
beginning of the file is looked at, byte by byte. A byte zero ends the path and the argument, but it
does not end the line.
-/

namespace CommitStamp

open Text

/-- What the first line of a file names. -/
structure Interpreter where
  path : Path
  argument? : Option Bytes
deriving DecidableEq

namespace Interpreter

/-- A blank on the line. -/
def isGap (b : UInt8) : Bool :=
  b == 0x20 || b == 0x09

/-- A byte that ends a path or an argument wherever it stands. -/
def isZero (b : UInt8) : Bool :=
  b == 0

/-- Bytes without the blanks at their two ends. -/
def trimGaps (s : Bytes) : Bytes :=
  ((s.dropWhile isGap).reverse.dropWhile isGap).reverse

/-- How many bytes of a file are looked at. After the end of a short file there are zeros. -/
def window : Nat := 256

/-- The line after `#!`. One that does not end within the window, nor before a zero, loses the last
byte there, and the path on it has to be whole: something follows it. -/
def line? (content : Bytes) : Option Bytes := do
  let s ← after? [0x23, 0x21] ((content.take window).rightpad window 0)
  let line := s.takeWhile fun b => b != 0x0a && !isZero b
  if s[line.length]? = some 0x0a then return line
  else if (s.dropWhile isGap).any fun b => isGap b || isZero b then return s.dropLast
  else none

end Interpreter

open Interpreter in
/-- The interpreter that a file names. A line of blanks names none, but before a zero there may be
an empty path. -/
def interpreter? (content : Bytes) : Option Interpreter := do
  let s := trimGaps (← line? content)
  let path := s.takeWhile fun b => !isGap b && !isZero b
  let after := s.drop path.length
  if s = [] then none
  else
    return {
      path := ⟨Encoding.utf8.decode path⟩
      argument? :=
        if after.head?.any isGap then some ((after.dropWhile isGap).takeWhile fun b => !isZero b)
        else none }

end CommitStamp
