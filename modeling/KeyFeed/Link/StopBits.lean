/-
This file holds the stop bits of a character: the three counts that have a name,
and the counts that a link can be asked for. A count is a whole number or a
floating-point number; in the short form of the settings both are whole where they
can be, and a count that is no number has no short form.
-/

import KeyFeed.Given
import KeyFeed.Number.Decimal

namespace KeyFeed.Link

open KeyFeed.Number

/-- A count of bits. -/
inductive BitCount where
  | whole (count : Int)
  | real (count : Float)
  deriving Repr, BEq

namespace BitCount

/-- A count as it is: a whole number without a point, a floating-point number with one or with an
exponent. -/
def text : BitCount → String
  | whole count => toString count
  | real count => shortestText count

/-- A count without a point if it equals a whole number. -/
def shortText : BitCount → String
  | whole count => toString count
  | real count =>
    match wholeValue? count with
    | some equal => toString equal
    | none => shortestText count

end BitCount

/-- Why a count of stop bits is refused when it is taken for a number. -/
inductive StopBitsRefusal where
  /-- No count is given. -/
  | blank
  /-- The count is beyond every number. -/
  | infinite
  | notANumber
  deriving Repr, DecidableEq

/-- The message of a refusal. -/
def StopBitsRefusal.message : StopBitsRefusal → String
  | blank => "int() argument must be a string, a bytes-like object or a real number, not 'list'"
  | infinite => "cannot convert float infinity to integer"
  | notANumber => "cannot convert float NaN to integer"

/-- The count of stop bits in the short form of the settings. -/
def shortStopBits : Given BitCount → Except StopBitsRefusal String
  | .blank => .error .blank
  | .value (.whole count) => .ok (BitCount.whole count).shortText
  | .value (.real count) =>
    match Binary.ofFloat count with
    | .notANumber => .error .notANumber
    | .infinite _ => .error .infinite
    | .finite .. => .ok (BitCount.real count).shortText

/-- The stop bits of a character. -/
inductive StopBits where
  | one
  | onePointFive
  | two
  deriving Repr, DecidableEq

/-- The count of stop bits. -/
def StopBits.count : StopBits → BitCount
  | one => .whole 1
  | onePointFive => .real 1.5
  | two => .whole 2

end KeyFeed.Link
