/-
This file writes a text in quotes, so that it can stand in a message. The quote
is the single one, or the double one when the text has a single quote and no
double quote; the backslash, the quote and what is not printable are escaped.
-/

import KeyFeed.Text.Printable

namespace KeyFeed.Text

/-- A digit of base sixteen, in lower case. -/
def hexDigit (value : Nat) : Char :=
  if value < 10 then Char.ofNat (0x30 + value) else Char.ofNat (0x61 + value - 10)

/-- The lowest digits of a number in base sixteen, as many as asked for. -/
def hexDigits : (width : Nat) → (value : Nat) → List Char
  | 0, _ => []
  | width + 1, value => hexDigits width (value / 16) ++ [hexDigit (value % 16)]

/-- The escape of a character by its code: two digits after x, four after u, eight after U,
whichever is the shortest that holds the code. -/
def escapeCode (code : Nat) : List Char :=
  if code < 0x100 then '\\' :: 'x' :: hexDigits 2 code
  else if code < 0x10000 then '\\' :: 'u' :: hexDigits 4 code
  else '\\' :: 'U' :: hexDigits 8 code

/-- One character of a quoted text. -/
def quoteChar (mark char : Char) : List Char :=
  if char = mark ∨ char = '\\' then ['\\', char]
  else if char = '\t' then ['\\', 't']
  else if char = '\n' then ['\\', 'n']
  else if char = '\r' then ['\\', 'r']
  else if isPrintable char then [char]
  else escapeCode char.toNat

/-- The quote that a text is put between. -/
def quoteMark (text : List Char) : Char :=
  if '\'' ∈ text ∧ '"' ∉ text then '"' else '\''

/-- A text between quotes, with escapes inside. -/
def quoted (text : List Char) : List Char :=
  let mark := quoteMark text
  mark :: text.flatMap (quoteChar mark) ++ [mark]

theorem quoteChar_of_printable {mark char : Char} (noMark : char ≠ mark)
    (noBackslash : char ≠ '\\') (printable : isPrintable char = true) :
    quoteChar mark char = [char] := by
  have other {control : Char} (hidden : isPrintable control = false) : char ≠ control := by
    rintro rfl
    rw [printable] at hidden
    cases hidden
  unfold quoteChar
  rw [if_neg (not_or.mpr ⟨noMark, noBackslash⟩), if_neg (other (by decide +kernel)),
    if_neg (other (by decide +kernel)), if_neg (other (by decide +kernel)), if_pos printable]

/-- A text of printable characters without single quotes and backslashes needs no escapes. -/
theorem flatMap_quoteChar_of_printable {text : List Char}
    (plain : ∀ char ∈ text, char ≠ '\'' ∧ char ≠ '\\' ∧ isPrintable char = true) :
    text.flatMap (quoteChar '\'') = text := by
  induction text with
  | nil => rfl
  | cons char rest inductionHypothesis =>
    obtain ⟨⟨noMark, noBackslash, printable⟩, later⟩ := List.forall_mem_cons.mp plain
    rw [List.flatMap_cons, quoteChar_of_printable noMark noBackslash printable,
      inductionHypothesis later]
    rfl

/-- Such a text is quoted as it stands. -/
theorem quoted_of_printable {text : List Char}
    (plain : ∀ char ∈ text, char ≠ '\'' ∧ char ≠ '\\' ∧ isPrintable char = true) :
    quoted text = '\'' :: text ++ ['\''] := by
  have mark : quoteMark text = '\'' := if_neg fun both => (plain _ both.1).1 rfl
  simp only [quoted, mark, flatMap_quoteChar_of_printable plain]

end KeyFeed.Text
