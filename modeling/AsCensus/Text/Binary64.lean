import AsCensus.Text.Numeral

namespace AsCensus
namespace Text

/-!
# Numbers with a fraction

A number with a fraction is held with 53 significant binary digits.  A decimal is
rounded to the nearest such number, a tie to the one with an even significand.
The text of a number is the shortest decimal that is rounded to it, written
without an exponent.

All of this is exact arithmetic on natural numbers.  Of the decimals on a grid of
a power of ten only the two neighbours of a number can be the one that is looked
for, so that it is enough to test these on finer and finer grids.
-/

/-- A number as a whole multiple of a power of the base. -/
structure Scaled where
  factor : Nat
  exponent : Int
  deriving DecidableEq, Repr

/-- A quotient of two numbers. -/
structure Quotient where
  upper : Nat
  lower : Nat
  deriving DecidableEq, Repr

namespace Quotient

/-- A multiple of a power as a quotient. -/
def ofScaled (base : Nat) (number : Scaled) : Quotient :=
  match number.exponent with
  | .ofNat exponent => ⟨number.factor * base.pow exponent, 1⟩
  | .negSucc exponent => ⟨number.factor, base.pow (exponent + 1)⟩

/-- Whether a quotient is smaller than another one. -/
def less (a b : Quotient) : Bool :=
  a.upper * b.lower < b.upper * a.lower

/-- A quotient divided by a power. -/
def divPower (base : Nat) (exponent : Int) (number : Quotient) : Quotient :=
  match exponent with
  | .ofNat exponent => ⟨number.upper, number.lower * base.pow exponent⟩
  | .negSucc exponent => ⟨number.upper * base.pow (exponent + 1), number.lower⟩

/-- The nearest natural number, of two the even one. -/
def round (number : Quotient) : Nat :=
  let whole := number.upper / number.lower
  let rest := 2 * (number.upper % number.lower)
  if rest < number.lower then whole
  else if rest = number.lower then whole + whole % 2
  else whole + 1

end Quotient

/-- A positive number `significand * 2 ^ exponent` with at most 53 binary digits. -/
structure Binary64 where
  significand : Nat
  exponent : Int
  deriving DecidableEq, Repr

namespace Binary64

/-- One more than the greatest significand. -/
def significandBound : Nat := Nat.pow 2 53

/-- The least significand of a number that is not tiny. -/
def significandStart : Nat := Nat.pow 2 52

/-- The exponent of the finest numbers. -/
def leastExponent : Int := -1074

/-- The exponent of the coarsest numbers. -/
def greatestExponent : Int := 971

/-- The exponent with which a quotient has 53 binary digits, unless it is tiny. -/
def exponentFor (number : Quotient) : Int :=
  let guess := Int.ofNat number.upper.log2 - Int.ofNat number.lower.log2 - 52
  let exact := if (number.divPower 2 guess).less ⟨significandStart, 1⟩ then guess - 1 else guess
  max exact leastExponent

/-- Round a positive quotient.  There is no result if it is too large. -/
def ofQuotient? (number : Quotient) : Option Binary64 :=
  let exponent := exponentFor number
  let rounded := (number.divPower 2 exponent).round
  let result : Binary64 :=
    if rounded = significandBound then ⟨significandStart, exponent + 1⟩ else ⟨rounded, exponent⟩
  if result.exponent ≤ greatestExponent then some result else none

/-- Zero. -/
def zero : Binary64 := ⟨0, leastExponent⟩

/-- The number nearest to a decimal.  There is none if the decimal is too large.  Beyond
400 places a decimal is too large or too small, whatever its digits are. -/
def nearest? (number : Scaled) : Option Binary64 :=
  let places := Int.ofNat (digits 10 number.factor).length + number.exponent
  if number.factor = 0 ∨ places < -400 then some zero
  else if 400 < places then none
  else ofQuotient? (.ofScaled 10 number)

/-- A number itself. -/
def toQuotient (number : Binary64) : Quotient :=
  .ofScaled 2 ⟨number.significand, number.exponent⟩

/-- The lower end of the range that is rounded to a number. -/
def lowerEnd (number : Binary64) : Quotient :=
  if number.significand = significandStart ∧ leastExponent < number.exponent then
    .ofScaled 2 ⟨4 * number.significand - 1, number.exponent - 2⟩
  else
    .ofScaled 2 ⟨2 * number.significand - 1, number.exponent - 1⟩

/-- The upper end of the range that is rounded to a number. -/
def upperEnd (number : Binary64) : Quotient :=
  .ofScaled 2 ⟨2 * number.significand + 1, number.exponent - 1⟩

/-- Whether a quotient is rounded to a number.  The ends of the range belong to it
when the significand is even. -/
def covers (number : Binary64) (value : Quotient) : Bool :=
  if number.significand % 2 = 0 then
    !value.less number.lowerEnd && !number.upperEnd.less value
  else
    number.lowerEnd.less value && value.less number.upperEnd

/-- The multiple of a power of ten that is rounded to a number, if there is one. -/
def decimalOn (number : Binary64) (exponent : Int) : Option Scaled :=
  let onGrid := number.toQuotient.divPower 10 exponent
  let whole := onGrid.upper / onGrid.lower
  let below := number.covers (.ofScaled 10 ⟨whole, exponent⟩)
  let above := number.covers (.ofScaled 10 ⟨whole + 1, exponent⟩)
  let nearerBelow := 2 * (onGrid.upper % onGrid.lower) < onGrid.lower
  if below && (!above || nearerBelow) then some ⟨whole, exponent⟩
  else if above then some ⟨whole + 1, exponent⟩
  else none

/-- The power of ten of a grid that is too coarse for a number. -/
def coarseGrid (number : Binary64) : Int :=
  (Int.ofNat number.significand.log2 + number.exponent) * 30103 / 100000 + 2

/-- How many grids have to be tried at most. -/
def gridCount : Nat := 24

/-- The decimal with the fewest digits that is rounded to a number. -/
def shortest (number : Binary64) : Scaled :=
  let tried := (List.range gridCount).findSome? fun step =>
    number.decimalOn (number.coarseGrid - Int.ofNat step)
  tried.getD ⟨0, 0⟩

end Binary64

/-- The text of a decimal without an exponent. -/
def positional (number : Scaled) : String :=
  let shown := digits 10 number.factor
  match number.exponent with
  | .ofNat exponent => String.ofList (shown ++ List.replicate exponent '0')
  | .negSucc exponent =>
      let places := exponent + 1
      let padded := List.replicate (places + 1 - shown.length) '0' ++ shown
      let split := padded.length - places
      String.ofList (padded.take split ++ '.' :: padded.drop split)

/-- The text of the number with a fraction that is nearest to a decimal.  There is
none if the decimal is too large. -/
def fractionText? (number : Scaled) : Option String :=
  (Binary64.nearest? number).map fun rounded =>
    if rounded.significand = 0 then "0" else positional rounded.shortest

end Text
end AsCensus
