/-
This file reads a whole number from a text. Blanks may stand around it and a sign
before it, digits of every script count, and one underscore may stand between two
digits. A run of more than 4300 digits is refused whatever follows it, so the time
that a reading takes stays bounded.
-/

import KeyFeed.Text.Character
import KeyFeed.Text.Quoted

namespace KeyFeed.Number

open KeyFeed.Text

/-- Why a text is not read as a whole number. -/
inductive WholeRefusal where
  /-- There are more digits than a reading accepts. -/
  | tooManyDigits (count : Nat)
  /-- The text is not a number at all. -/
  | malformed (text : List Char)
  deriving Repr, DecidableEq

/-- The longest run of digits that is read. -/
def digitLimit : Nat := 4300

/-- How much of a quoted text a message about a malformed number shows. -/
def quoteLimit : Nat := 200

/-- The message of a refusal. -/
def WholeRefusal.message : WholeRefusal → String
  | .tooManyDigits count =>
    s!"Exceeds the limit ({digitLimit} digits) for integer string conversion: value has {count} " ++
      "digits; use sys.set_int_max_str_digits() to increase the limit"
  | .malformed text =>
    "invalid literal for int() with base 10: " ++ String.ofList ((quoted text).take quoteLimit)

/-- The text begins with a digit. -/
def startsWithDigit : List Char → Bool
  | [] => false
  | char :: _ => isDecimalDigit char

/-- The values of the digits that the text begins with, and what follows them. The flag says
that a digit stands just before. An underscore is skipped between two digits; anywhere else in
the run it leaves nothing to read. -/
def digitRun : Bool → List Char → Option (List Nat × List Char)
  | _, [] => some ([], [])
  | afterDigit, char :: rest =>
    if char = '_' then
      if afterDigit && startsWithDigit rest then digitRun false rest else none
    else match digitValue? char with
      | none => some ([], char :: rest)
      | some value => (digitRun true rest).map fun run => (value :: run.1, run.2)

/-- The sign of a number text, and what follows it. -/
def splitSign : List Char → Bool × List Char
  | '-' :: rest => (true, rest)
  | '+' :: rest => (false, rest)
  | text => (false, text)

/-- The number with a sign and a magnitude. -/
def signed (negative : Bool) (magnitude : Nat) : Int :=
  if negative then -(magnitude : Int) else magnitude

/-- Reads a whole number. -/
def readWhole (text : List Char) : Except WholeRefusal Int :=
  let (negative, body) := splitSign (trim isNumberBlank text)
  match digitRun false body with
  | none => .error (.malformed text)
  | some (digits, rest) =>
    if digitLimit < digits.length then .error (.tooManyDigits digits.length)
    else if digits.isEmpty || !rest.isEmpty then .error (.malformed text)
    else .ok (signed negative (ofDigits digits))

end KeyFeed.Number
