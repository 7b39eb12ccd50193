/-
This file holds tables of characters in the order of their codes, as the large
character sets print them: in rows, with the code of a character given by its row and
its place there.
-/

import KeyFeed.Charset.CodePage

namespace KeyFeed

/-- Characters by their codes. A row lists those from its first code on, with a mark at a code
without a character, and each row begins 256 codes after the one before. -/
structure Block where
  start : Nat
  rows : List String

namespace Block

/-- The code of a character that stands in one of the rows. -/
def find? (char : Char) : (start : Nat) → (rows : List String) → Option Nat
  | _, [] => none
  | start, row :: rest =>
    match row.toList.findIdx? (· == char) with
    | some index => some (start + index)
    | none => find? char (start + 0x100) rest

/-- The code of a character that stands in one of the blocks. -/
def code? (blocks : List Block) (char : Char) : Option Nat :=
  if char = CodePage.hole then none
  else blocks.findSome? fun block => find? char block.start block.rows

/-- How many characters of the blocks come before a character by their numbers. -/
def countBelow (blocks : List Block) (char : Char) : Nat :=
  (blocks.flatMap fun block => block.rows.flatMap String.toList).countP fun other =>
    other ≠ CodePage.hole && other < char

end Block

/-- The two bytes of a code, the high one first. -/
def twoBytes (code : Nat) : List UInt8 := [(code / 256).toUInt8, (code % 256).toUInt8]

/-- The two bytes of a code of seven bits each, with their upper bits set. -/
def twoHighBytes (code : Nat) : List UInt8 := twoBytes (code + 0x8080)

end KeyFeed
