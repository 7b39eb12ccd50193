/-
This file holds the encodings that write any text with the characters of ASCII: with
escapes, with runs of digits between marks, or with all that is not ASCII put behind
the rest. But for the escapes, what is written for a character depends on those beside
it.
-/

import KeyFeed.Text.Quoted

namespace KeyFeed

open KeyFeed.Text

/-- The bytes of characters of ASCII. -/
def asciiBytes (text : List Char) : List UInt8 := text.map fun char => char.toNat.toUInt8

/-! ### Escapes -/

/-- A character with an escape for all that is not printable ASCII. -/
def escapedBytes (char : Char) : List UInt8 :=
  asciiBytes <|
    if char = '\\' then ['\\', '\\']
    else if char = '\t' then ['\\', 't']
    else if char = '\n' then ['\\', 'n']
    else if char = '\r' then ['\\', 'r']
    else if 0x20 ≤ char.toNat ∧ char.toNat ≤ 0x7E then [char]
    else escapeCode char.toNat

/-- A character with an escape for all that has no single byte. -/
def rawEscapedBytes (char : Char) : List UInt8 :=
  if char.toNat < 0x100 then [char.toNat.toUInt8] else asciiBytes (escapeCode char.toNat)

/-! ### Runs of digits -/

namespace Utf7

/-- The digits of base 64. -/
def digits : String := "ABCDEFGHIJKLMNOPQRSTUVWXYZabcdefghijklmnopqrstuvwxyz0123456789+/"

/-- The byte of a digit. -/
def digit (value : Nat) : UInt8 := ((digits.toList.getD value 'A').toNat).toUInt8

/-- The characters that stand for themselves: printable ASCII with three exceptions, and blanks. -/
def isDirect (char : Char) : Bool :=
  char == '\t' || char == '\n' || char == '\r' ||
    ('\x20' ≤ char && char ≤ '\x7d' && char != '+' && char != '\\')

/-- The numbers of sixteen bits of a character, high byte first. -/
def unitBytes (char : Char) : List UInt8 :=
  let code := char.toNat
  let unit (number : Nat) : List UInt8 := [(number / 256).toUInt8, (number % 256).toUInt8]
  if code < 0x10000 then unit code
  else
    unit (0xD800 + (code - 0x10000) / 1024) ++ unit (0xDC00 + (code - 0x10000) % 1024)

/-- Bytes in base 64, six bits a digit; zeros fill up the last one. -/
def base64 : List UInt8 → List UInt8
  | [] => []
  | [first] =>
    let number := first.toNat * 16
    [digit (number / 64), digit (number % 64)]
  | [first, second] =>
    let number := (first.toNat * 256 + second.toNat) * 4
    [digit (number / 4096), digit (number / 64 % 64), digit (number % 64)]
  | first :: second :: third :: rest =>
    let number := (first.toNat * 256 + second.toNat) * 256 + third.toNat
    digit (number / 262144) :: digit (number / 4096 % 64) :: digit (number / 64 % 64) ::
      digit (number % 64) :: base64 rest

/-- The mark that ends a run before a character that could be read as a part of it. -/
def runEnd (next : Char) : List UInt8 :=
  if next ∈ digits.toList ∨ next = '-' then asciiBytes ['-'] else []

/-- A text, where a run has begun with the given bytes or none is open. -/
def encodeFrom : (run : Option (List UInt8)) → List Char → List UInt8
  | none, [] => []
  | some bytes, [] => base64 bytes ++ asciiBytes ['-']
  | none, char :: rest =>
    if char = '+' then asciiBytes ['+', '-'] ++ encodeFrom none rest
    else if isDirect char then asciiBytes [char] ++ encodeFrom none rest
    else asciiBytes ['+'] ++ encodeFrom (some (unitBytes char)) rest
  | some bytes, char :: rest =>
    if isDirect char then
      base64 bytes ++ runEnd char ++ asciiBytes [char] ++ encodeFrom none rest
    else encodeFrom (some (bytes ++ unitBytes char)) rest

/-- A text in UTF-7. -/
def encode (text : List Char) : List UInt8 := encodeFrom none text

end Utf7

/-! ### All that is not ASCII behind the rest -/

namespace Punycode

/-- The byte of a digit of base 36. -/
def digit (value : Nat) : UInt8 := (if value < 26 then 0x61 + value else 0x16 + value).toUInt8

/-- The least value of the last digit at a place, which depends on what was written before. -/
def threshold (place bias : Nat) : Nat :=
  if place ≤ bias then 1 else if bias + 26 ≤ place then 26 else place - bias

theorem threshold_bounds (place bias : Nat) :
    1 ≤ threshold place bias ∧ threshold place bias ≤ 26 := by
  unfold threshold
  split
  · omega
  · split <;> omega

/-- A number in digits, the lowest one first. -/
def number (bias place value : Nat) : List UInt8 :=
  let least := threshold place bias
  if value < least then [digit value]
  else
    digit (least + (value - least) % (36 - least)) ::
      number bias (place + 36) ((value - least) / (36 - least))
termination_by value
decreasing_by
  have bounds := threshold_bounds place bias
  have less := Nat.div_le_self (value - threshold place bias) (36 - threshold place bias)
  omega

/-- Divides a distance until it is small, and counts in steps of 36. -/
def settle (distance steps : Nat) : Nat :=
  if 455 < distance then settle (distance / 35) (steps + 36)
  else steps + 36 * distance / (distance + 38)
termination_by distance
decreasing_by exact Nat.div_lt_self (by omega) (by omega)

/-- The bias after a distance was written, by the count of characters that are then in place. -/
def adapt (distance count : Nat) (isFirst : Bool) : Nat :=
  let share := if isFirst then distance / 700 else distance / 2
  settle (share + share / count) 0

/-- What is written so far: the distance since the last character that was put in, the bias, the
count of characters in place, and the digits. -/
structure Progress where
  distance : Nat
  bias : Nat
  count : Nat
  isFirst : Bool
  bytes : List UInt8

/-- Goes over one character of the text for those of a code. -/
def visit (code : Nat) (progress : Progress) (char : Char) : Progress :=
  if char.toNat < code then { progress with distance := progress.distance + 1 }
  else if char.toNat = code then {
    distance := 0
    bias := adapt progress.distance (progress.count + 1) progress.isFirst
    count := progress.count + 1
    isFirst := false
    bytes := progress.bytes ++ number progress.bias 36 progress.distance }
  else progress

/-- Puts in the characters of codes that follow one another, from the lowest one not yet seen. -/
def insert (text : List Char) : (codes : List Nat) → (next : Nat) → Progress → Progress
  | [], _, progress => progress
  | code :: rest, next, progress =>
    let moved := { progress with
      distance := progress.distance + (code - next) * (progress.count + 1) }
    let passed := text.foldl (visit code) moved
    insert text rest (code + 1) { passed with distance := passed.distance + 1 }

/-- A text in Punycode. -/
def encode (text : List Char) : List UInt8 :=
  let basic := text.filter fun char => char.toNat < 0x80
  let codes := ((text.map Char.toNat).filter fun code => 0x80 ≤ code).mergeSort.eraseDups
  let begun : Progress := ⟨0, 72, basic.length, true, []⟩
  (if basic.isEmpty then [] else asciiBytes (basic ++ ['-'])) ++
    (insert text codes 0x80 begun).bytes

end Punycode

end KeyFeed
