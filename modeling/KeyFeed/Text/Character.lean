/-
This file says which characters are blank, which are decimal digits, and what the lower case of
a letter is.

Two readers of numbers use two different sets of blanks: the pattern of a delay parameter and
the names of line settings take every blank, while a number text leaves out the four separators
U+001C to U+001F, which count as junk there.

Unicode lays the decimal digits of every script out in runs of ten, so a run is given by the
code of its zero, and the value of a digit is its distance from that zero.

Names are compared with ASCII keys only, and of all the characters beyond ASCII the Kelvin sign
alone has an ASCII letter as its lower case, so two small functions decide every comparison.
-/

namespace KeyFeed.Text

/-! ### Blanks -/

/-- The characters that white space in a pattern or around a name may consist of:
the ASCII controls U+0009 to U+000D and U+001C to U+001F, the space, the next-line
control, and the space, line and paragraph separators of Unicode. -/
def isBlank (char : Char) : Bool :=
  let code := char.toNat
  (0x09 ≤ code && code ≤ 0x0D) || (0x1C ≤ code && code ≤ 0x20) || code == 0x85 ||
    code == 0xA0 || code == 0x1680 || (0x2000 ≤ code && code ≤ 0x200A) ||
    code == 0x2028 || code == 0x2029 || code == 0x202F || code == 0x205F || code == 0x3000

/-- The information separators of ASCII, the four blanks that a number text refuses. -/
def isSeparator (char : Char) : Bool :=
  0x1C ≤ char.toNat && char.toNat ≤ 0x1F

/-- The blanks that may stand around the digits of a number text. -/
def isNumberBlank (char : Char) : Bool :=
  isBlank char && !isSeparator char

/-- The text without the leading and trailing characters of a class. -/
def trim (skipped : Char → Bool) (text : List Char) : List Char :=
  ((text.dropWhile skipped).reverse.dropWhile skipped).reverse

theorem isBlank_of_isNumberBlank {char : Char} (blank : isNumberBlank char = true) :
    isBlank char = true := by
  simp only [isNumberBlank, Bool.and_eq_true] at blank
  exact blank.1

/-! ### Decimal digits -/

/-- The codes of the digit zero in each script that has decimal digits. -/
def zeroDigits : List Nat :=
  [0x30, 0x660, 0x6F0, 0x7C0, 0x966, 0x9E6, 0xA66, 0xAE6, 0xB66, 0xBE6, 0xC66, 0xCE6, 0xD66,
    0xDE6, 0xE50, 0xED0, 0xF20, 0x1040, 0x1090, 0x17E0, 0x1810, 0x1946, 0x19D0, 0x1A80, 0x1A90,
    0x1B50, 0x1BB0, 0x1C40, 0x1C50, 0xA620, 0xA8D0, 0xA900, 0xA9D0, 0xA9F0, 0xAA50, 0xABF0,
    0xFF10, 0x104A0, 0x10D30, 0x11066, 0x110F0, 0x11136, 0x111D0, 0x112F0, 0x11450, 0x114D0,
    0x11650, 0x116C0, 0x11730, 0x118E0, 0x11950, 0x11C50, 0x11D50, 0x11DA0, 0x16A60, 0x16AC0,
    0x16B50, 0x1D7CE, 0x1D7D8, 0x1D7E2, 0x1D7EC, 0x1D7F6, 0x1E140, 0x1E2F0, 0x1E950, 0x1FBF0]

/-- The value of a decimal digit of any script. -/
def digitValue? (char : Char) : Option Nat :=
  (zeroDigits.find? fun start => start ≤ char.toNat && char.toNat < start + 10).map
    (char.toNat - ·)

/-- A decimal digit of any script. -/
def isDecimalDigit (char : Char) : Bool :=
  (digitValue? char).isSome

/-- One of the ten ASCII digits. -/
def isAsciiDigit (char : Char) : Bool :=
  '0' ≤ char && char ≤ '9'

/-- The number that a list of digit values writes in base ten, the first one leading. -/
def ofDigits (digits : List Nat) : Nat :=
  digits.foldl (fun value digit => 10 * value + digit) 0

theorem digitValue?_lt {char : Char} {value : Nat} (found : digitValue? char = some value) :
    value < 10 := by
  simp only [digitValue?, Option.map_eq_some_iff] at found
  obtain ⟨start, located, rfl⟩ := found
  have inside := List.find?_some located
  simp only [Bool.and_eq_true, decide_eq_true_eq] at inside
  omega

/-! ### Letters -/

/-- An ASCII capital in lower case; any other character as it is. -/
def lowerAscii (char : Char) : Char :=
  if 'A' ≤ char ∧ char ≤ 'Z' then Char.ofNat (char.toNat + 32) else char

/-- The lower case of a character, as far as it is an ASCII letter: a capital is lowered, and the
Kelvin sign becomes the letter k. -/
def lowerToAscii (char : Char) : Char :=
  if char.toNat = 0x212A then 'k' else lowerAscii char

end KeyFeed.Text
