/-
This file takes a floating-point number apart: a finite one is a sign, a whole
significand and a power of two, so that exact arithmetic on whole numbers can
decide how it is written in base ten.
-/

namespace KeyFeed.Number

/-- A floating-point number by its parts. -/
inductive Binary where
  | notANumber
  | infinite (negative : Bool)
  /-- The number is the significand times two to the exponent, with the sign. -/
  | finite (negative : Bool) (significand : Nat) (exponent : Int)
  deriving Repr, DecidableEq

/-- The parts of a floating-point number. -/
def Binary.ofFloat (value : Float) : Binary :=
  let bits := value.toBits.toNat
  let negative := decide (bits / 1 <<< 63 = 1)
  let biased : Nat := bits / 1 <<< 52 % 1 <<< 11
  let fraction : Nat := bits % 1 <<< 52
  if biased = 2047 then
    if fraction = 0 then .infinite negative else .notANumber
  else if biased = 0 then .finite negative fraction (-1074)
  else .finite negative (1 <<< 52 + fraction) ((biased : Int) - 1075)

/-- Two to a power, or the number one when the power is negative. -/
def twoTo (exponent : Int) : Nat := 1 <<< exponent.toNat

/-- A magnitude as a fraction of whole numbers. -/
structure Ratio where
  numerator : Nat
  denominator : Nat
  deriving Repr, DecidableEq

/-- The fraction for a significand and a power of two. -/
def Ratio.ofBinary (significand : Nat) (exponent : Int) : Ratio :=
  ⟨significand * twoTo exponent, twoTo (-exponent)⟩

/-- The fraction times ten to a power. -/
def Ratio.scale (ratio : Ratio) (power : Int) : Ratio :=
  ⟨ratio.numerator * Nat.pow 10 power.toNat, ratio.denominator * Nat.pow 10 (-power).toNat⟩

/-- A fraction is at most another one. -/
def Ratio.atMost (first second : Ratio) : Bool :=
  first.numerator * second.denominator ≤ second.numerator * first.denominator

/-- The nearest whole number to a fraction; a half goes to the even neighbour. -/
def Ratio.round (ratio : Ratio) : Nat :=
  let quotient := ratio.numerator / ratio.denominator
  let double := 2 * (ratio.numerator % ratio.denominator)
  if double < ratio.denominator then quotient
  else if ratio.denominator < double then quotient + 1
  else if quotient % 2 = 0 then quotient else quotient + 1

/-- The whole number that a floating-point number equals, if there is one. -/
def wholeValue? (value : Float) : Option Int :=
  match Binary.ofFloat value with
  | .finite negative significand exponent =>
    let ratio := Ratio.ofBinary significand exponent
    if ratio.numerator % ratio.denominator = 0 then
      let magnitude : Int := (ratio.numerator / ratio.denominator : Nat)
      some (if negative then -magnitude else magnitude)
    else none
  | _ => none

end KeyFeed.Number
