/-
This file writes a floating-point number as a decimal, in two ways.

One is with the fewest digits that read back as the same number. All decimals
between the midpoints to the two neighbours read back; of the grids of one, two,
three and more digits the first that has a point there gives the digits, and of two
such points the nearer one is taken.

The other is with a fixed count of decimal places. There the number is taken exactly,
so a half is a half of the binary value, and it goes to the even neighbour.
-/

import KeyFeed.Number.Binary

namespace KeyFeed.Number

/-! ### The fewest digits -/

/-- The decimals that read back as one number lie between two fractions. The ends belong to
the interval when the significand is even, as a tie goes to the even neighbour. -/
structure Interval where
  low : Ratio
  high : Ratio
  closed : Bool

/-- The interval of a positive number. Below a power of two the neighbour is nearer. -/
def Interval.around (significand : Nat) (exponent : Int) : Interval :=
  let below := if significand = 1 <<< 52 ∧ -1074 < exponent then 1 else 2
  ⟨Ratio.ofBinary (4 * significand - below) (exponent - 2),
    Ratio.ofBinary (4 * significand + 2) (exponent - 2), significand % 2 = 0⟩

/-- A decimal, digits times ten to a power, lies in the interval. -/
def Interval.holds (interval : Interval) (digits : Nat) (power : Int) : Bool :=
  let point := Ratio.scale ⟨digits, 1⟩ power
  if interval.closed then interval.low.atMost point && point.atMost interval.high
  else !point.atMost interval.low && !interval.high.atMost point

/-- The power of ten of the leading digit of a positive fraction, searched downwards. -/
def leadingPower (ratio : Ratio) : (steps : Nat) → (power : Int) → Int
  | 0, power => power
  | steps + 1, power =>
    if Ratio.atMost (Ratio.scale ⟨1, 1⟩ power) ratio then power
    else leadingPower ratio steps (power - 1)

/-- The shortest decimal in the interval, as digits and a power of ten, from a count of digits
on. The two candidates of a grid are the neighbours of the number itself. -/
def shortestFrom (ratio : Ratio) (interval : Interval) (leading : Int) :
    (steps : Nat) → (count : Nat) → Nat × Int
  | 0, count => ((ratio.scale (count - 1 - leading)).round, leading - count + 1)
  | steps + 1, count =>
    let power := leading - count + 1
    let scaled := ratio.scale (-power)
    let lower := scaled.numerator / scaled.denominator
    match interval.holds lower power, interval.holds (lower + 1) power with
    | true, true => (scaled.round, power)
    | true, false => (lower, power)
    | false, true => (lower + 1, power)
    | false, false => shortestFrom ratio interval leading steps (count + 1)

/-- Drops the trailing zeros of the digits into the power. -/
def dropZeros : (steps : Nat) → Nat × Int → Nat × Int
  | 0, decimal => decimal
  | steps + 1, (digits, power) =>
    if digits ≠ 0 ∧ digits % 10 = 0 then dropZeros steps (digits / 10, power + 1)
    else (digits, power)

/-- The fewest digits that read back as a positive number, and their power of ten. -/
def shortestDecimal (significand : Nat) (exponent : Int) : Nat × Int :=
  let ratio := Ratio.ofBinary significand exponent
  let leading := leadingPower ratio 640 310
  dropZeros 20 (shortestFrom ratio (Interval.around significand exponent) leading 17 1)

/-- The choices of a float text that the digits leave open: numbers whose leading digit has a
power of ten in the positional range are written without an exponent. -/
structure FloatLayout where
  positionalFrom : Int
  positionalBelow : Int
  exponentWidth : Nat

/-- Numbers from 0.0001 up to 10000000000000000 are positional; an exponent has a sign and at
least two digits. -/
def FloatLayout.standard : FloatLayout := ⟨-4, 16, 2⟩

/-- Zeros in front of a number text, up to a width. -/
def padZeros (width : Nat) (text : String) : String :=
  String.ofList (List.replicate (width - text.length) '0') ++ text

/-- A positive decimal in a layout. A positional number has a digit on both sides of the
point; in the other form the point is dropped after a single digit. -/
def FloatLayout.write (layout : FloatLayout) (digits : Nat) (power : Int) : String :=
  let written := (toString digits).toList
  let leading := power + written.length - 1
  if layout.positionalFrom ≤ leading ∧ leading < layout.positionalBelow then
    if 0 ≤ power then
      String.ofList (written ++ List.replicate power.toNat '0') ++ ".0"
    else if 0 ≤ leading then
      String.ofList (written.take (leading.toNat + 1) ++ '.' :: written.drop (leading.toNat + 1))
    else
      String.ofList ('0' :: '.' :: (List.replicate (-leading - 1).toNat '0' ++ written))
  else
    let mantissa := match written with
      | first :: second :: rest => first :: '.' :: second :: rest
      | short => short
    let sign := if leading < 0 then "-" else "+"
    String.ofList mantissa ++ "e" ++ sign ++
      padZeros layout.exponentWidth (toString leading.natAbs)

/-- The text of a floating-point number: the fewest digits that read back. -/
def shortestText (value : Float) : String :=
  match Binary.ofFloat value with
  | .notANumber => "nan"
  | .infinite negative => if negative then "-inf" else "inf"
  | .finite negative significand exponent =>
    let sign := if negative then "-" else ""
    if significand = 0 then sign ++ "0.0"
    else
      let (digits, power) := shortestDecimal significand exponent
      sign ++ FloatLayout.standard.write digits power

/-! ### A fixed count of places -/

/-- The digits of a whole number, cut before its last places by a point. -/
def pointed (places : Nat) (value : Nat) : String :=
  let digits := (toString value).toList
  let padded := List.replicate (places + 1 - digits.length) '0' ++ digits
  let whole := padded.length - places
  String.ofList (padded.take whole ++ '.' :: padded.drop whole)

/-- The text of a floating-point number with at least one decimal place. -/
def placesText (places : Nat) (value : Float) : String :=
  match Binary.ofFloat value with
  | .notANumber => "nan"
  | .infinite negative => if negative then "-inf" else "inf"
  | .finite negative significand exponent =>
    let scaled := (Ratio.ofBinary significand exponent).scale places
    (if negative then "-" else "") ++ pointed places scaled.round

end KeyFeed.Number
