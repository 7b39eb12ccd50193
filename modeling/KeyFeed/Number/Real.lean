/-
This file reads a floating-point number from a text: blanks around it, a sign,
digits of every script with a point and an exponent, or the names of infinity and
of the number that is none. One underscore may stand between two digits.
-/

import KeyFeed.Number.Whole

namespace KeyFeed.Number

open KeyFeed.Text

/-- The floating-point number nearest to a whole number times ten to a power. Beyond the range
of powers the result is infinite or zero without any arithmetic. -/
def nearestFloat (negative : Bool) (mantissa : Nat) (power : Int) : Float :=
  let magnitude :=
    if mantissa = 0 then 0.0
    else
      let leading := power + (toString mantissa).length
      if 400 < leading then 1.0 / 0.0
      else if leading < -400 then 0.0
      else Float.ofScientific mantissa (power < 0) power.natAbs
  if negative then -magnitude else magnitude

/-- Every underscore has a digit on both sides. The first argument is the character before. -/
def underscoresFit : Option Char → List Char → Bool
  | _, [] => true
  | before, char :: rest =>
    (char != '_' || (before.any isDecimalDigit && startsWithDigit rest)) &&
      underscoresFit (some char) rest

/-- The values of the leading digits, and what follows. -/
def plainDigits : List Char → List Nat × List Char
  | [] => ([], [])
  | char :: rest =>
    match digitValue? char with
    | none => ([], char :: rest)
    | some value =>
      let run := plainDigits rest
      (value :: run.1, run.2)

/-- The exponent that ends a number text. Without the letter there is none and it counts as
zero. -/
def readExponent? : List Char → Option Int
  | [] => some 0
  | letter :: rest =>
    if lowerAscii letter = 'e' then
      let (negative, body) := splitSign rest
      match plainDigits body with
      | ([], _) => none
      | (digits, []) => some (signed negative (ofDigits digits))
      | (_, _ :: _) => none
    else none

/-- The digits after the point of a number text, and what follows. -/
def fraction : List Char → List Nat × List Char
  | '.' :: rest => plainDigits rest
  | rest => ([], rest)

/-- The magnitude that a number text without sign writes. -/
def readMagnitude? (negative : Bool) (text : List Char) : Option Float :=
  let name := String.ofList (text.map lowerAscii)
  if name = "inf" ∨ name = "infinity" then some (if negative then -(1.0 / 0.0) else 1.0 / 0.0)
  else if name = "nan" then some (0.0 / 0.0)
  else
    let (whole, afterWhole) := plainDigits text
    let (places, afterPlaces) := fraction afterWhole
    if whole.isEmpty && places.isEmpty then none
    else (readExponent? afterPlaces).map fun exponent =>
      nearestFloat negative (ofDigits (whole ++ places)) (exponent - places.length)

/-- Reads a floating-point number. -/
def readReal? (text : List Char) : Option Float :=
  let body := trim isNumberBlank text
  if underscoresFit none body then
    let (negative, magnitude) := splitSign (body.filter (· != '_'))
    readMagnitude? negative magnitude
  else none

/-- The message about a text that is not a number. -/
def realRefusal (text : List Char) : String :=
  "could not convert string to float: " ++ String.ofList (quoted text)

/-- The least magnitude for which no floating-point number is nearest: it lies half a step beyond
the largest one. -/
def floatBound : Nat := 1 <<< 1024 - 1 <<< 970

/-- The floating-point number nearest to a whole number, unless it lies beyond the largest. -/
def floatOfInt? (value : Int) : Option Float :=
  if value.natAbs < floatBound then some (nearestFloat (value < 0) value.natAbs 0) else none

end KeyFeed.Number
