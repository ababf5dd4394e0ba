namespace FileCleanup

/-! Numbers of 53 significant bits, none negative and none near either end of the range, and the
fewest decimal digits that tell one of them from its neighbours. -/

structure Ratio where
  numerator : Nat
  denominator : Nat
  deriving DecidableEq, Repr

namespace Ratio

def ofNat (value : Nat) : Ratio := ⟨value, 1⟩

def scale (ratio : Ratio) (base : Nat) (power : Int) : Ratio :=
  if 0 ≤ power then ⟨ratio.numerator * Nat.pow base power.toNat, ratio.denominator⟩
  else ⟨ratio.numerator, ratio.denominator * Nat.pow base (-power).toNat⟩

def add (left right : Ratio) : Ratio :=
  ⟨left.numerator * right.denominator + right.numerator * left.denominator,
    left.denominator * right.denominator⟩

def le (left right : Ratio) : Bool :=
  left.numerator * right.denominator ≤ right.numerator * left.denominator

def floor (ratio : Ratio) : Nat := ratio.numerator / ratio.denominator

/-- The nearest whole number; halfway it is the even one. -/
def nearest (ratio : Ratio) : Nat :=
  let rest := 2 * (ratio.numerator % ratio.denominator)
  if rest < ratio.denominator ∨ (rest = ratio.denominator ∧ ratio.floor % 2 = 0) then ratio.floor
  else ratio.floor + 1

/-- One more than the exponent of the leading decimal digit. -/
def decimalPoint (ratio : Ratio) : Int :=
  let places := (toString ratio.denominator).length
  (toString (ratio.scale 10 places).floor).length - places

end Ratio

/-- A significand of 53 bits, or zero, times a power of two. -/
structure Binary64 where
  significand : Nat
  exponent : Int
  deriving DecidableEq, Repr

/-- The digits after a decimal point, the first of them not zero, and a power of ten. -/
structure Decimal where
  digits : List Char
  point : Int
  deriving DecidableEq, Repr

namespace Binary64

def leastSignificand : Nat := 4503599627370496

/-- The number nearest to a ratio; halfway it is the one with an even significand. -/
def ofRatio (ratio : Ratio) : Binary64 :=
  if ratio.numerator = 0 then ⟨0, 0⟩
  else
    let upper : Int := ratio.numerator.log2 - ratio.denominator.log2 - 52
    let exponent := if (ratio.scale 2 (-upper)).floor < leastSignificand then upper - 1 else upper
    let significand := (ratio.scale 2 (-exponent)).nearest
    if significand = 2 * leastSignificand then ⟨leastSignificand, exponent + 1⟩
    else ⟨significand, exponent⟩

def toRatio (number : Binary64) : Ratio :=
  (Ratio.ofNat number.significand).scale 2 number.exponent

def add (left right : Binary64) : Binary64 :=
  ofRatio (left.toRatio.add right.toRatio)

/-- Halfway to the next smaller number, which is closer below a power of two. -/
def lowerBound (number : Binary64) : Ratio :=
  if number.significand = leastSignificand then
    (Ratio.ofNat (4 * number.significand - 1)).scale 2 (number.exponent - 2)
  else (Ratio.ofNat (2 * number.significand - 1)).scale 2 (number.exponent - 1)

def upperBound (number : Binary64) : Ratio :=
  (Ratio.ofNat (2 * number.significand + 1)).scale 2 (number.exponent - 1)

/-- Whether a ratio rounds to this number. -/
def covers (number : Binary64) (ratio : Ratio) : Bool :=
  if number.significand % 2 = 0 then
    number.lowerBound.le ratio && ratio.le number.upperBound
  else !ratio.le number.lowerBound && !number.upperBound.le ratio

/-- The multiple of a power of ten that rounds to this number, the nearer of two. -/
def onGrid? (number : Binary64) (power : Int) : Option Nat :=
  let scaled := number.toRatio.scale 10 (-power)
  let below := scaled.floor
  let covered (multiple : Nat) := number.covers ((Ratio.ofNat multiple).scale 10 power)
  match covered below, covered (below + 1) with
  | true, true =>
    some (if 2 * (scaled.numerator % scaled.denominator) < scaled.denominator then below
      else below + 1)
  | true, false => some below
  | false, true => some (below + 1)
  | false, false => none

/-- The shortest decimal that rounds to this number. Seventeen digits always do. -/
def shortest (number : Binary64) : Decimal :=
  let point := number.toRatio.decimalPoint
  let digitsOf (count : Nat) : Option Decimal :=
    (number.onGrid? (point - count)).map fun multiple =>
      let digits := (toString multiple).toList
      ⟨(digits.reverse.dropWhile (· = '0')).reverse, point + digits.length - count⟩
  ((List.range 18).drop 1).findSome? digitsOf |>.getD ⟨[], 0⟩

/-- At least one place after the point, and a power of ten only outside of 0.0001 to 10^16. -/
def text (number : Binary64) : String :=
  let ⟨digits, point⟩ := number.shortest
  if number.significand = 0 then "0.0"
  else if point < -3 ∨ 16 < point then
    let places := digits.drop 1
    String.ofList (digits.take 1 ++ if places = [] then [] else '.' :: places) ++ "e" ++
      toString (point - 1)
  else if point ≤ 0 then
    "0." ++ String.ofList (List.replicate (-point).toNat '0' ++ digits)
  else
    let whole := point.toNat
    let places := digits.drop whole
    String.ofList (digits.take whole ++ List.replicate (whole - digits.length) '0') ++ "." ++
      if places = [] then "0" else String.ofList places

end Binary64

end FileCleanup
